import Mathlib
import RagService.Lib.PyCall
import RagService.Db.Models

/-!
# Authentication: users, tokens, API keys

The authentication code of the API and the handlers it guards: `api/utils/jwt.py`,
`api/routers/auth.py`, the dependency `get_current_user` of `api/dependencies/auth.py`, the
helpers `get_current_user_dict` and `get_current_user_ws` of `api/auth.py`, and
`POST /feedback`.

Outside the code are parameters of `AuthEnv`: SHA-256, passlib's password check, PyJWT's
encoding and decoding (decoding at the current time, `none` for `InvalidTokenError`), and the
environment variables. A principal's attributes and a token's claims are Python values
(`PyVal`); the random part of a new key is an argument of the request.

`api/utils/jwt.py` defines no `decode_token`, the name `get_current_user`, the rate-limit
middleware and `api/middleware/auth.py` import from it. `get_current_user` takes the function
that import asks for as a parameter, so that its body is modelled in full; the import itself
raises first.
-/

set_option autoImplicit false

namespace RagService.Api

open PyText PyCall RagService.Db

/-! ## Python values -/

/-- The values a principal's attributes and a token's claims take. -/
inductive PyVal where
  | none
  | bool (b : Bool)
  | int (n : Int)
  | str (s : Str)
  deriving DecidableEq, Repr

/-- Truthiness. -/
def PyVal.truthy : PyVal → Bool
  | .none => false
  | .bool b => b
  | .int n => n != 0
  | .str s => !s.isEmpty

/-- A nullable string column's value. -/
def PyVal.ofOption : Option Str → PyVal
  | Option.some s => .str s
  | Option.none => .none

/-- `str(n)` of an integer. -/
def intDigits : Int → Str
  | .ofNat n => Nat.toDigits 10 n
  | .negSucc n => '-' :: Nat.toDigits 10 (n + 1)

/-- `str(v)`. -/
def PyVal.toStr : PyVal → Str
  | .none => "None".toList
  | .bool b => if b then "True".toList else "False".toList
  | .int n => intDigits n
  | .str s => s

/-- The class name `type(v).__name__`. -/
def PyVal.typeName : PyVal → Str
  | .none => "NoneType".toList
  | .bool _ => "bool".toList
  | .int _ => "int".toList
  | .str _ => "str".toList

/-- A `ValueError` with its message. -/
def valueError (message : Str) : Exc := ⟨"ValueError".toList, message⟩

/-- `'<type>' object has no attribute '<name>'`. -/
def attributeError (v : PyVal) (name : Str) : Exc :=
  ⟨"AttributeError".toList, "'".toList ++ v.typeName ++ "' object has no attribute '".toList ++
    name ++ "'".toList⟩

/-- The value of a non-empty string of ASCII decimal digits. -/
def decimalValue (s : Str) : Option Nat :=
  if s ≠ [] ∧ s.all Char.isDigit then some (s.foldl (fun n c => 10 * n + (c.toNat - 48)) 0)
  else none

/-- An optional sign: whether it is `-`, and the text after it. -/
def splitSign : Str → Bool × Str
  | '-' :: d => (true, d)
  | '+' :: d => (false, d)
  | d => (false, d)

/-- `int(v)`, for a string: surrounding whitespace, an optional sign, ASCII digits (the
underscores and the non-ASCII decimal digits Python also reads are left out). -/
def pyInt : PyVal → Except Exc Int
  | .none => .error (typeError
      "int() argument must be a string, a bytes-like object or a real number, not 'NoneType'".toList)
  | .bool b => .ok (if b then 1 else 0)
  | .int n => .ok n
  | .str s =>
    let (neg, digits) := splitSign (strip s)
    match decimalValue digits with
    | some n => .ok (if neg then -(n : Int) else n)
    | none => .error (valueError
        ("invalid literal for int() with base 10: '".toList ++ s ++ "'".toList))

/-- `int()` of a string whose stripped text starts with neither a digit nor a sign raises
`ValueError`, quoting the string as given. -/
theorem pyInt_str_error {s rest : Str} {c : Char} (hs : strip s = c :: rest)
    (hc : c.isDigit = false) (hminus : c ≠ '-') (hplus : c ≠ '+') :
    pyInt (.str s) =
      .error (valueError ("invalid literal for int() with base 10: '".toList ++ s ++ "'".toList)) := by
  have hsign : splitSign (c :: rest) = (false, c :: rest) := by
    simp [splitSign, hminus, hplus]
  have hdec : decimalValue (c :: rest) = none := by simp [decimalValue, hc]
  simp only [pyInt, hs, hsign, hdec]

/-- No text that starts with `api_` reads as an `int`. -/
theorem pyInt_api (d : Str) :
    pyInt (.str ("api_".toList ++ d)) = .error (valueError
      ("invalid literal for int() with base 10: '".toList ++ ("api_".toList ++ d) ++
        "'".toList)) := by
  have ha : "api_".toList ++ d = 'a' :: ("pi_".toList ++ d) := by
    have h : "api_".toList = 'a' :: "pi_".toList := by decide
    rw [h, List.cons_append]
  obtain ⟨rest, hs⟩ := strip_cons ("pi_".toList ++ d) (c := 'a') (by decide)
  rw [← ha] at hs
  exact pyInt_str_error hs (by decide) (by decide) (by decide)

/-- `v.startswith(p)`. -/
def PyVal.startswith (v : PyVal) (p : Str) : Except Exc Bool :=
  match v with
  | .str s => .ok (p.isPrefixOf s)
  | _ => .error (attributeError v "startswith".toList)

/-- A token's claims, a JSON object. -/
abbrev Payload := List (Str × PyVal)

/-- `payload.get(key)`. -/
def Payload.get (p : Payload) (key : Str) : Option PyVal := (p.find? (·.1 = key)).map (·.2)

/-- `payload[key] = v`. -/
def Payload.set (p : Payload) (key : Str) (v : PyVal) : Payload :=
  if p.any (·.1 = key) then p.map fun e => if e.1 = key then (key, v) else e else p ++ [(key, v)]

/-! ## Rows and requests -/

/-- A `users` row. -/
structure User where
  id : Nat
  email : Str
  password_hash : Str
  tenant_id : Option Str
  role : Str
  deriving DecidableEq, Repr

/-- An `api_keys` row; `revoked` is `revoked_at IS NOT NULL`. -/
structure APIKey where
  id : Nat
  key_hash : Str
  tenant_id : Str
  role : Str
  revoked : Bool
  deriving DecidableEq, Repr

/-- An `answer_feedback` row (the rating, reason and citations, which no check reads, left
out). -/
structure AnswerFeedback where
  id : Nat
  answer_id : Str
  tenant_id : Str
  user_id : Option Str
  deriving DecidableEq, Repr

/-- The tables of the authentication code. -/
structure AuthDb where
  users : List User
  api_keys : List APIKey
  feedback : List AnswerFeedback
  deriving DecidableEq, Repr

/-- A `User` as `get_current_user` returns it: built with `id`, `tenant_id`, `email` and
`role` only and never inserted, so its `created_at` stays `None`. -/
structure Principal where
  id : PyVal
  tenant_id : PyVal
  email : PyVal
  role : PyVal
  created_at : Option Nat
  deriving DecidableEq, Repr

/-- What the authentication code reads outside itself. -/
structure AuthEnv where
  /-- `hashlib.sha256(s.encode()).hexdigest()`, also `APIKey.hash_key`. -/
  sha256 : Str → Str
  /-- `os.getenv("NEXTAUTH_SECRET")`. -/
  secret : Option Str
  /-- `os.getenv("REQUIRE_AUTH", "true")`. -/
  requireAuth : Str
  /-- `time.time()`, in whole seconds. -/
  now : Nat
  /-- `jwt.encode(payload, secret, algorithm="HS256")`. -/
  jwtEncode : Payload → Str → Str
  /-- `jwt.decode(token, secret, algorithms=["HS256"])` now: the claims, or `none` for an
  `InvalidTokenError`. -/
  jwtDecode : Str → Str → Option Payload
  /-- passlib's `verify_password(password, hashed)`. -/
  verifyPassword : Str → Str → Bool
  /-- passlib's `hash_password(password)`. -/
  hashPassword : Str → Str

/-- The headers and the query parameter the authentication code reads. -/
structure Request where
  authorization : Option Str
  xApiKey : Option Str
  queryToken : Option Str
  deriving DecidableEq, Repr

/-- `HTTPException(status_code, detail)`, as `str()` shows it. -/
def httpException (status_code : Nat) (detail : Str) : Exc :=
  ⟨"HTTPException".toList, Nat.toDigits 10 status_code ++ ": ".toList ++ detail⟩

/-- `authorization.partition(" ")`, without the separator. -/
def partitionSpace (s : Str) : Str × Str := (s.takeWhile (· ≠ ' '), (s.dropWhile (· ≠ ' ')).drop 1)

/-- `HTTPBearer(auto_error=False)`: the credentials of `Authorization: <scheme> <credentials>`
when the scheme is `bearer` in any case. -/
def httpBearer (authorization : Option Str) : Option Str :=
  match authorization with
  | none => none
  | some a =>
    if (partitionSpace a).1.isEmpty || (partitionSpace a).2.isEmpty then none
    else if (partitionSpace a).1.map Char.toLower = "bearer".toList then some (partitionSpace a).2
    else none

/-- `auth_header[7:]` when `auth_header.startswith("Bearer ")`. -/
def bearerToken (auth_header : Str) : Option Str :=
  if "Bearer ".toList.isPrefixOf auth_header then some (auth_header.drop 7) else none

theorem partitionSpace_bearer (key : Str) :
    partitionSpace ("Bearer ".toList ++ key) = ("Bearer".toList, key) := by
  have h : "Bearer ".toList = ['B', 'e', 'a', 'r', 'e', 'r', ' '] := by decide
  rw [h]
  constructor

/-- `Authorization: Bearer <key>` gives `HTTPBearer` the credentials `key`. -/
theorem httpBearer_bearer {key : Str} (h : key ≠ []) :
    httpBearer (some ("Bearer ".toList ++ key)) = some key := by
  have hscheme : "Bearer".toList.isEmpty = false := by decide
  have hlower : "Bearer".toList.map Char.toLower = "bearer".toList := by decide
  have hkey : key.isEmpty = false := List.isEmpty_eq_false_iff.2 h
  simp only [httpBearer, partitionSpace_bearer, hscheme, hkey, hlower, Bool.or_false,
    Bool.false_eq_true, if_false, if_true]

/-! ## API keys -/

/-- `query(APIKey).filter(APIKey.key_hash == key_hash, APIKey.revoked_at.is_(None)).first()`. -/
def AuthDb.liveKey (db : AuthDb) (key_hash : Str) : Option APIKey :=
  db.api_keys.find? fun k => k.key_hash = key_hash ∧ k.revoked = false

/-- The principal of a key: `User(id=f"api_{db_api_key.id}", tenant_id=db_api_key.tenant_id,
email="", role=db_api_key.role)`. -/
def keyPrincipal (k : APIKey) : Principal :=
  ⟨.str ("api_".toList ++ Nat.toDigits 10 k.id), .str k.tenant_id, .str [], .str k.role, none⟩

/-- The lookup `get_current_user_api_key` and `get_current_user_api_key_header` both make: a
presented key, if any, resolved through the live keys. -/
def apiKeyUser (E : AuthEnv) (db : AuthDb) : Option Str → Option Principal
  | none => none
  | some key => if key.isEmpty then none else (db.liveKey (E.sha256 key)).map keyPrincipal

/-- `get_current_user_api_key(credentials)`. -/
def getCurrentUserApiKey (E : AuthEnv) (db : AuthDb) (credentials : Option Str) :
    Option Principal :=
  apiKeyUser E db credentials

/-- `get_current_user_api_key_header(request)`: the `X-API-Key` header. -/
def getCurrentUserApiKeyHeader (E : AuthEnv) (db : AuthDb) (request : Request) :
    Option Principal :=
  apiKeyUser E db request.xApiKey

section Keys

variable (E : AuthEnv) {db : AuthDb} {key : Str} {k : APIKey}

theorem apiKeyUser_live (hkey : key ≠ []) (hk : db.liveKey (E.sha256 key) = some k) :
    apiKeyUser E db (some key) = some (keyPrincipal k) := by
  simp [apiKeyUser, hk, hkey]

theorem apiKeyUser_dead (hk : db.liveKey (E.sha256 key) = none) :
    apiKeyUser E db (some key) = none := by
  simp [apiKeyUser, hk]

end Keys

/-! ## Tokens -/

/-- The module-level names of `api/utils/jwt.py`. -/
def jwtModuleNames : List Str :=
  ["os", "time", "Optional", "jwt", "User", "create_access_token", "verify_token",
    "create_user_token"].map String.toList

/-- `from api.utils.jwt import decode_token`. -/
def importDecodeToken : Except Exc Unit :=
  importFrom "api.utils.jwt".toList jwtModuleNames "decode_token".toList

theorem importDecodeToken_error :
    importDecodeToken = .error ⟨"ImportError".toList,
      "cannot import name 'decode_token' from 'api.utils.jwt'".toList⟩ := by
  decide

/-- An argument of `create_access_token`: a value, or the claims dict. -/
inductive Arg where
  | val (v : PyVal)
  | dict (entries : Payload)
  deriving DecidableEq, Repr

/-- `create_access_token(data: dict, expires_delta: Optional[int] = None)`. -/
def createAccessTokenParams : List Param :=
  [⟨"data".toList, false⟩, ⟨"expires_delta".toList, true⟩]

/-- The body of `create_access_token` on its bound arguments: the claims with `exp` set to an
hour from now (or `expires_delta` seconds when it is a non-zero int), signed with
`NEXTAUTH_SECRET`. -/
def createAccessTokenBody (E : AuthEnv) (arg : Str → Option Arg) : Except Exc Str :=
  match arg "data".toList with
  | some (.dict data) =>
    let delta : Int := match arg "expires_delta".toList with
      | some (.val (.int n)) => if n ≠ 0 then n else 3600
      | _ => 3600
    let to_encode := data.set "exp".toList (.int (E.now + delta))
    match E.secret with
    | some secret =>
      if secret.isEmpty then .error (valueError "NEXTAUTH_SECRET environment variable required".toList)
      else .ok (E.jwtEncode to_encode secret)
    | none => .error (valueError "NEXTAUTH_SECRET environment variable required".toList)
  -- `data.copy()` on a value that is not a dict
  | some (.val v) => .error (attributeError v "copy".toList)
  | none => .error (attributeError .none "copy".toList)

/-- `token_data` of `create_user_token`: the claims `user_id`, `tenant_id`, `email` and
`role`. -/
def tokenData (user : User) : Payload :=
  [("user_id".toList, .str (Nat.toDigits 10 user.id)),
    ("tenant_id".toList, .ofOption user.tenant_id),
    ("email".toList, .str user.email), ("role".toList, .str user.role)]

/-- `create_user_token(user)`: `token_data` passed positionally. -/
def createUserToken (E : AuthEnv) (user : User) : Except Exc Str :=
  call "create_access_token".toList createAccessTokenParams [Arg.dict (tokenData user)] []
    (createAccessTokenBody E)

/-! ## The three ways a request is authenticated -/

/-- The token `get_current_user` tries as a JWT: the Bearer credentials, or what follows
`Bearer ` in the header when `HTTPBearer` found none. -/
def presentedToken (request : Request) : Option Str :=
  match httpBearer request.authorization with
  | some credentials => some credentials
  | none => request.authorization.bind bearerToken

/-- What `get_current_user` does with a token once `decode_token` is imported: the principal
of its `sub` claim. -/
def tokenUser (decodeToken : Str → Option Payload) (token : Str) : Except Exc Principal := do
  let payload := (decodeToken token).getD []
  if payload.isEmpty then throw (httpException 401 "Invalid token".toList)
  let user_id := (payload.get "sub".toList).getD .none
  if !user_id.truthy then throw (httpException 401 "Invalid token claims".toList)
  let id ← pyInt user_id
  pure ⟨.int id, (payload.get "tenant_id".toList).getD .none,
    (payload.get "email".toList).getD (.str []), (payload.get "role".toList).getD (.str "user".toList),
    none⟩

/-- `api.dependencies.auth.get_current_user`: a key as Bearer credentials, then a key in
`X-API-Key`, then a token, decoded by the `decode_token` the body imports. Only
`InvalidTokenError` is caught around the import and the decoding. -/
def getCurrentUser (E : AuthEnv) (decodeToken : Str → Option Payload) (db : AuthDb)
    (request : Request) : Except Exc Principal :=
  match getCurrentUserApiKey E db (httpBearer request.authorization) with
  | some user => .ok user
  | none =>
    match getCurrentUserApiKeyHeader E db request with
    | some user => .ok user
    | none =>
      match presentedToken request with
      | none => .error (httpException 401 "Authentication required".toList)
      | some token =>
        if token.isEmpty then .error (httpException 401 "Authentication required".toList)
        else do
          importDecodeToken
          tokenUser decodeToken token

section GetCurrentUser

variable (E : AuthEnv) (decodeToken : Str → Option Payload) {db : AuthDb} {request : Request}

theorem getCurrentUser_bearer_key {key : Str} {k : APIKey}
    (hauth : request.authorization = some ("Bearer ".toList ++ key)) (hkey : key ≠ [])
    (hk : db.liveKey (E.sha256 key) = some k) :
    getCurrentUser E decodeToken db request = .ok (keyPrincipal k) := by
  simp only [getCurrentUser, getCurrentUserApiKey, hauth, httpBearer_bearer hkey,
    apiKeyUser_live E hkey hk]

theorem getCurrentUser_header_key {key : Str} {k : APIKey}
    (hbearer : getCurrentUserApiKey E db (httpBearer request.authorization) = none)
    (hheader : request.xApiKey = some key) (hkey : key ≠ [])
    (hk : db.liveKey (E.sha256 key) = some k) :
    getCurrentUser E decodeToken db request = .ok (keyPrincipal k) := by
  simp only [getCurrentUser, hbearer, getCurrentUserApiKeyHeader, hheader,
    apiKeyUser_live E hkey hk]

/-- A request that presents no live key but a token reaches the import of `decode_token`. -/
theorem getCurrentUser_token {token : Str}
    (hbearer : getCurrentUserApiKey E db (httpBearer request.authorization) = none)
    (hheader : getCurrentUserApiKeyHeader E db request = none)
    (htoken : presentedToken request = some token) (hne : token ≠ []) :
    getCurrentUser E decodeToken db request = .error ⟨"ImportError".toList,
      "cannot import name 'decode_token' from 'api.utils.jwt'".toList⟩ := by
  have hempty : token.isEmpty = false := List.isEmpty_eq_false_iff.2 hne
  simp only [getCurrentUser, hbearer, hheader, htoken, hempty, Bool.false_eq_true, if_false,
    importDecodeToken_error]
  rfl

end GetCurrentUser

/-- The dict `get_current_user_dict` and `get_current_user_ws` return. -/
structure UserDict where
  tenant_id : PyVal
  user_id : PyVal
  role : PyVal
  deriving DecidableEq, Repr

/-- `validate_jwt_token(token)`: the token's `tenant_id`, `user_id` and `role`. -/
def validateJwtToken (E : AuthEnv) (token : Str) : Option UserDict :=
  match E.secret with
  | none => none
  | some secret =>
    if secret.isEmpty then none
    else (E.jwtDecode token secret).map fun payload =>
      ⟨(payload.get "tenant_id".toList).getD .none, (payload.get "user_id".toList).getD .none,
        (payload.get "role".toList).getD (.str "user".toList)⟩

/-- `validate_api_key(api_key, db)`. -/
def validateApiKey (E : AuthEnv) (api_key : Str) (db : AuthDb) : Option UserDict :=
  (db.liveKey (E.sha256 api_key)).map fun k =>
    ⟨.str k.tenant_id, .str ("api_key_".toList ++ Nat.toDigits 10 k.id), .str k.role⟩

/-- `require_auth()`. -/
def requireAuth (E : AuthEnv) : Bool := E.requireAuth.map Char.toLower = "true".toList

/-- `api.auth.get_current_user_dict`: the `Authorization` header's token, as a JWT, then as
a key. -/
def getCurrentUserDict (E : AuthEnv) (db : AuthDb) (request : Request) : Except Exc UserDict :=
  if !requireAuth E then
    .ok ⟨.str "anonymous".toList, .str "anonymous".toList, .str "user".toList⟩
  else
    match request.authorization with
    | none => .error (httpException 401 "Authorization header required".toList)
    | some auth_header =>
      if auth_header.isEmpty then .error (httpException 401 "Authorization header required".toList)
      else
        match bearerToken auth_header with
        | none => .error (httpException 401 "Invalid authorization header format".toList)
        | some token =>
          match validateJwtToken E token with
          | some user => .ok user
          | none =>
            match validateApiKey E token db with
            | some user => .ok user
            | none => .error (httpException 401 "Invalid token or API key".toList)

/-- `api.auth.get_current_user_ws`: the `token` query parameter or the `Authorization`
header's token, as a JWT, then as a key. -/
def getCurrentUserWs (E : AuthEnv) (db : AuthDb) (request : Request) : Option UserDict :=
  let token := match request.queryToken with
    | some t => if t.isEmpty then request.authorization.bind bearerToken else some t
    | none => request.authorization.bind bearerToken
  match token with
  | none => none
  | some token =>
    if token.isEmpty then none
    else (validateJwtToken E token).orElse fun _ => validateApiKey E token db

/-- Loading `api/middleware/auth.py`, whose imports include `decode_token`; `api.main`
imports it before it builds the app. -/
def loadAuthMiddleware : Except Exc Unit := importDecodeToken

/-! ## Handlers -/

/-- The body of `POST /login`. -/
structure UserLogin where
  email : Str
  password : Str
  deriving DecidableEq, Repr

/-- The body of `POST /register`, the fields of `UserLogin`. -/
abbrev UserRegister := UserLogin

/-- `UserInfo`. -/
structure UserInfo where
  id : Int
  email : Str
  tenant_id : Option Str
  role : Str
  created_at : Nat
  deriving DecidableEq, Repr

/-- `query(User).filter(User.email == email).first()`. -/
def AuthDb.userByEmail (db : AuthDb) (email : Str) : Option User :=
  db.users.find? (·.email = email)

/-- `str(v) if v else None` for a nullable string column. -/
def strOrNone : Option Str → Option Str
  | some s => if s.isEmpty then none else some s
  | none => none

/-- `POST /register`: a user of no tenant, with role `user`; `created_at` is the server's
`now()`. -/
def register (E : AuthEnv) (db : AuthDb) (user_data : UserRegister) :
    Except Exc (UserInfo × AuthDb) :=
  match db.userByEmail user_data.email with
  | some _ => .error (httpException 409 "User with this email already exists".toList)
  | none =>
    let new_user : User := ⟨nextId (db.users.map (·.id)), user_data.email,
      E.hashPassword user_data.password, none, "user".toList⟩
    .ok (⟨new_user.id, new_user.email, strOrNone new_user.tenant_id, new_user.role, E.now⟩,
      { db with users := db.users ++ [new_user] })

theorem register_api_keys {E : AuthEnv} {db db' : AuthDb} {user_data : UserRegister}
    {r : UserInfo} (h : register E db user_data = .ok (r, db')) : db'.api_keys = db.api_keys := by
  unfold register at h
  split at h
  · cases h
  · cases h
    rfl

/-- `POST /login`: the user's fields are passed to `create_access_token` as the keywords
`user_id`, `email`, `tenant_id` and `role`. -/
def login (E : AuthEnv) (db : AuthDb) (user_data : UserLogin) : Except Exc Str :=
  match db.userByEmail user_data.email with
  | none => .error (httpException 401 "Invalid email or password".toList)
  | some user =>
    if !E.verifyPassword user_data.password user.password_hash then
      .error (httpException 401 "Invalid email or password".toList)
    else
      call "create_access_token".toList createAccessTokenParams []
        [("user_id".toList, Arg.val (.int user.id)), ("email".toList, .val (.str user.email)),
          ("tenant_id".toList, .val (.ofOption (strOrNone user.tenant_id))),
          ("role".toList, .val (.str user.role))]
        (createAccessTokenBody E)

/-- A user whose password checks out reaches `create_access_token`, which takes no keyword
`user_id`. -/
theorem login_verified (E : AuthEnv) {db : AuthDb} {user_data : UserLogin} {u : User}
    (hu : db.userByEmail user_data.email = some u)
    (hpw : E.verifyPassword user_data.password u.password_hash = true) :
    login E db user_data =
      .error (unexpectedKeyword "create_access_token".toList "user_id".toList) := by
  have hk : "user_id".toList ∉ createAccessTokenParams.map (·.name) := by decide
  simp only [login, hu, hpw, Bool.not_true, Bool.false_eq_true, if_false]
  exact call_of_bindArgs_error _ (bindArgs_unexpected _ _ _ _ hk)

/-- pydantic's error for a `None` given to the `datetime` field `created_at` of `model`. -/
def createdAtError (model : Str) : Exc :=
  ⟨"ValidationError".toList, "1 validation error for ".toList ++ model ++
    "\ncreated_at\n  Input should be a valid datetime [type=datetime_type, input_value=None, input_type=NoneType]".toList⟩

/-- `GET /me`: `int(current_user.id)`, then `UserInfo` with the principal's `created_at`. -/
def getCurrentUserInfo (current_user : Principal) : Except Exc UserInfo := do
  let id ← pyInt current_user.id
  let tenant_id := if current_user.tenant_id.truthy then some current_user.tenant_id.toStr
    else none
  match current_user.created_at with
  | none => throw (createdAtError "UserInfo".toList)
  | some created_at =>
    pure ⟨id, current_user.email.toStr, tenant_id, current_user.role.toStr, created_at⟩

theorem getCurrentUserInfo_keyPrincipal (k : APIKey) :
    getCurrentUserInfo (keyPrincipal k) = .error (valueError
      ("invalid literal for int() with base 10: '".toList ++
        ("api_".toList ++ Nat.toDigits 10 k.id) ++ "'".toList)) := by
  simp only [getCurrentUserInfo, keyPrincipal, pyInt_api]
  rfl

/-- The body of `POST /api-keys`. -/
structure APIKeyCreate where
  role : Option Str
  deriving DecidableEq, Repr

/-- `APIKeyResponse` (the timestamp left out). -/
structure APIKeyResponse where
  id : Nat
  key : Str
  tenant_id : Str
  role : Str
  deriving DecidableEq, Repr

/-- An `IntegrityError` of an insert. -/
def integrityError (message : Str) : Exc := ⟨"IntegrityError".toList, message⟩

/-- The error of a `NULL` in the non-null column `tenant_id` of `table`. -/
def tenantNotNull (table : Str) : Exc :=
  integrityError ("null value in column \"tenant_id\" of relation \"".toList ++ table ++
    "\" violates not-null constraint".toList)

/-- `POST /api-keys`: the key `pk_<token>` of the caller's tenant, stored by its hash, where
`token` is `secrets.token_urlsafe(32)`. A `None` tenant breaks the column's `NOT NULL`, a hash
already stored the unique index on `key_hash`; a tenant that is not a string is stored as its
`str`. -/
def createApiKey (E : AuthEnv) (db : AuthDb) (current_user : Principal)
    (api_key_data : APIKeyCreate) (token : Str) : Except Exc (APIKeyResponse × AuthDb) :=
  let api_key := "pk_".toList ++ token
  let key_hash := E.sha256 api_key
  let role := (strOrNone api_key_data.role).getD "user".toList
  match current_user.tenant_id with
  | .none => .error (tenantNotNull "api_keys".toList)
  | tenant =>
    if key_hash ∈ db.api_keys.map (·.key_hash) then
      .error (integrityError
        "duplicate key value violates unique constraint \"ix_api_keys_key_hash\"".toList)
    else
      let db_api_key : APIKey := ⟨nextId (db.api_keys.map (·.id)), key_hash, tenant.toStr, role,
        false⟩
      .ok (⟨db_api_key.id, api_key, db_api_key.tenant_id, db_api_key.role⟩,
        { db with api_keys := db.api_keys ++ [db_api_key] })

/-- What a key creation that commits did: a new row of the caller's tenant under a new hash and
a new id, stored after the others. -/
theorem createApiKey_ok {E : AuthEnv} {db db' : AuthDb} {current_user : Principal}
    {api_key_data : APIKeyCreate} {token : Str} {r : APIKeyResponse}
    (h : createApiKey E db current_user api_key_data token = .ok (r, db')) :
    r.key = "pk_".toList ++ token ∧ current_user.tenant_id ≠ .none ∧
      r.tenant_id = current_user.tenant_id.toStr ∧
      E.sha256 r.key ∉ db.api_keys.map (·.key_hash) ∧ r.id = nextId (db.api_keys.map (·.id)) ∧
      db' = { db with api_keys := db.api_keys ++ [⟨r.id, E.sha256 r.key, r.tenant_id, r.role, false⟩] } := by
  unfold createApiKey at h
  dsimp only at h
  split at h
  · cases h
  · rename_i tenant htenant
    split at h
    · cases h
    · rename_i hnew
      cases h
      exact ⟨rfl, htenant, rfl, hnew, rfl, rfl⟩

/-- `APIKeyList` (the timestamp left out). -/
structure APIKeyList where
  id : Nat
  tenant_id : Str
  role : Str
  deriving DecidableEq, Repr

/-- Whether a key row is one of the caller's tenant that is not revoked. -/
def APIKey.liveFor (k : APIKey) (current_user : Principal) : Bool :=
  PyVal.str k.tenant_id = current_user.tenant_id ∧ k.revoked = false

/-- `GET /api-keys`: the live keys of the caller's tenant. -/
def listApiKeys (current_user : Principal) (db : AuthDb) : List APIKeyList :=
  (db.api_keys.filter (·.liveFor current_user)).map fun key => ⟨key.id, key.tenant_id, key.role⟩

/-- A row after `revoked_at` is set on the row of id `key_id`. -/
def APIKey.revokeIf (key_id : Nat) (k : APIKey) : APIKey :=
  if k.id = key_id then { k with revoked := true } else k

/-- Every row with id `key_id` marked revoked. -/
def AuthDb.revoke (db : AuthDb) (key_id : Nat) : AuthDb :=
  { db with api_keys := db.api_keys.map (APIKey.revokeIf key_id) }

/-- `DELETE /api-keys/{key_id}`: a live key of the caller's tenant is revoked. -/
def revokeApiKey (key_id : Nat) (current_user : Principal) (db : AuthDb) :
    Except Exc (Str × AuthDb) :=
  match db.api_keys.find? (fun k => k.id = key_id ∧ k.liveFor current_user) with
  | none => .error (httpException 404 "API key not found".toList)
  | some api_key => .ok ("API key revoked successfully".toList, db.revoke api_key.id)

/-- A revocation that commits found a live key of the caller's tenant under the id asked for. -/
theorem revokeApiKey_ok {key_id : Nat} {current_user : Principal} {db db' : AuthDb} {m : Str}
    (h : revokeApiKey key_id current_user db = .ok (m, db')) :
    ∃ k ∈ db.api_keys, k.id = key_id ∧ k.liveFor current_user = true ∧ db' = db.revoke key_id := by
  unfold revokeApiKey at h
  split at h
  · cases h
  · rename_i api_key hfind
    cases h
    have hp := List.find?_some hfind
    simp only [decide_eq_true_eq] at hp
    exact ⟨api_key, List.mem_of_find?_eq_some hfind, hp.1, hp.2, by rw [hp.1]⟩

/-- The body of `POST /feedback` (the reason and citation ids, which no check reads, left
out). -/
structure FeedbackCreate where
  answer_id : Str
  rating : Int
  deriving DecidableEq, Repr

/-- The `LookupError` of a value that is not a member of the enum `name`, raised at the
flush. -/
def enumLookupError (name : Str) (values : List Str) (v : PyVal) : Exc :=
  ⟨"StatementError".toList, "(builtins.LookupError) '".toList ++ v.toStr ++
    "' is not among the defined enum values. Enum name: ".toList ++ name ++
    ". Possible values: ".toList ++ ", ".toList.intercalate values⟩

/-- SQLAlchemy binding a value to an `Enum` column: a string is passed on, any other value
must be one of the enum's members, or the flush fails. -/
def enumBind (name : Str) (values : List Str) (elem : PyVal) : Except Exc Str :=
  match elem with
  | .str s => .ok s
  | v => .error (enumLookupError name values v)

/-- PostgreSQL storing a string in an enum column. -/
def enumStore (name : Str) (values : List Str) (s : Str) : Except Exc Str :=
  if s ∈ values then .ok s
  else .error ⟨"DataError".toList, "invalid input value for enum ".toList ++ name ++ ": \"".toList ++
    s ++ "\"".toList⟩

/-- `POST /feedback` up to its commit: the row of the caller's tenant, with the caller's id
unless it starts with `api_`. The response, built after the commit, is left out. -/
def createFeedback (current_user : Principal) (db : AuthDb) (feedback_data : FeedbackCreate) :
    Except Exc AuthDb := do
  let isKey ← current_user.id.startswith "api_".toList
  let user_id := if isKey then none else some current_user.id.toStr
  -- the flush: the rating is bound to `Enum("up", "down")`, then the row reaches the table
  let rating ← enumBind "feedback_rating".toList ["up".toList, "down".toList]
    (.int feedback_data.rating)
  let _ ← enumStore "feedback_rating".toList ["up".toList, "down".toList] rating
  match current_user.tenant_id with
  | .none => throw (tenantNotNull "answer_feedback".toList)
  | tenant =>
    pure { db with feedback := db.feedback ++
      [⟨nextId (db.feedback.map (·.id)), feedback_data.answer_id, tenant.toStr, user_id⟩] }

/-- The rating of `FeedbackCreate` is an `int` and the column an enum of names: no feedback is
ever stored, whoever sends it. -/
theorem createFeedback_error (current_user : Principal) (db : AuthDb)
    (feedback_data : FeedbackCreate) : ∃ e, createFeedback current_user db feedback_data = .error e := by
  unfold createFeedback
  cases hs : current_user.id.startswith "api_".toList with
  | error e => exact ⟨e, rfl⟩
  | ok isKey =>
    exact ⟨enumLookupError "feedback_rating".toList ["up".toList, "down".toList]
      (.int feedback_data.rating), rfl⟩

theorem createFeedback_keyPrincipal (k : APIKey) (db : AuthDb) (feedback_data : FeedbackCreate) :
    createFeedback (keyPrincipal k) db feedback_data = .error (enumLookupError
      "feedback_rating".toList ["up".toList, "down".toList] (.int feedback_data.rating)) := by
  have hstarts : (keyPrincipal k).id.startswith "api_".toList = .ok true := by
    simp [keyPrincipal, PyVal.startswith]
  simp only [createFeedback, hstarts, enumBind]
  rfl

/-- An environment to run the handlers on: hashing is the identity, a password checks against
the hash equal to it, and no secret is set. -/
def identityEnv : AuthEnv :=
  ⟨id, none, "true".toList, 0, fun _ _ => [], fun _ _ => none, fun p h => p == h, id⟩

end RagService.Api
