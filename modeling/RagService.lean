import RagService.Lib.PyText
import RagService.Lib.Batches
import RagService.Lib.Runs
import RagService.Lib.OrderBy
import RagService.Lib.Interleaving
import RagService.Parsing.Elements
import RagService.Parsing.Tables
import RagService.Chunking.Pipeline
import RagService.Chunking.TableChunks
import RagService.Chunking.Headings
import RagService.Lib.Session
import RagService.Db.Models
import RagService.Workers.Tasks
import RagService.Workers.Footprint
import RagService.Workers.System
import RagService.Workers.Status
import RagService.Lib.Hoare
import RagService.Workers.Specs
import RagService.Workers.Events
import RagService.Workers.Rerun
import RagService.Retrieval.Search
import RagService.Workers.Visibility
import RagService.Api.RateLimit
import RagService.Lib.PyCall
import RagService.Api.Auth
import RagService.Api.ApiKeys
import RagService.Api.Tokens
import RagService.Lib.Json
import RagService.Lib.JsonRoundTrip
import RagService.Lib.LineReader
import RagService.Answer.Stream
import RagService.Lib.Grouping
import RagService.Retrieval.Context
import RagService.Retrieval.Rerank
import RagService.Lib.Glob
import RagService.Answer.Cache
import RagService.Workers.Failures
import RagService.Parsing.Normalize
import RagService.Parsing.PdfPages
import RagService.Prompt.Answer
import RagService.Api.WebSocket
import RagService.Lib.Progress
import RagService.Workers.Index
import RagService.Workers.Progress
import RagService.Workers.Integrity
import RagService.Answer.Orchestrator
import RagService.Embed.WorkersAI
import RagService.Answer.Gemini
import RagService.Embed.Provider
