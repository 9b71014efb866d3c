import RagService.Api.Auth

/-!
# Tokens: what issues them and what reads them

Two modules issue tokens and four places read them, and they do not agree.

`POST /login` calls `create_access_token(user_id=…, email=…, tenant_id=…, role=…)`, but the
function's parameters are `data` and `expires_delta`: every login whose password checks out
raises `TypeError` before a token exists. `get_current_user`, the auth middleware (which
`api.main` imports at start-up) and `get_current_user_ws` of `api.dependencies.auth` import
`decode_token` from `api.utils.jwt`, which defines no such name: `ImportError`
(`login_breaks_token_round_trip`).
-/

set_option autoImplicit false

namespace RagService.Api

open PyText PyCall RagService.Db

/-! ## Login and the readers of tokens -/

theorem login_breaks_token_round_trip (E : AuthEnv) {db : AuthDb} {user_data : UserLogin}
    {u : User} (hu : db.userByEmail user_data.email = some u)
    (hpw : E.verifyPassword user_data.password u.password_hash = true) :
    login E db user_data =
      .error (unexpectedKeyword "create_access_token".toList "user_id".toList) ∧
    (∀ (decodeToken : Str → Option Payload) (keys : AuthDb) (request : Request) (token : Str),
      getCurrentUserApiKey E keys (httpBearer request.authorization) = none →
      getCurrentUserApiKeyHeader E keys request = none →
      presentedToken request = some token → token ≠ [] →
      getCurrentUser E decodeToken keys request = .error ⟨"ImportError".toList,
        "cannot import name 'decode_token' from 'api.utils.jwt'".toList⟩) ∧
    loadAuthMiddleware = .error ⟨"ImportError".toList,
      "cannot import name 'decode_token' from 'api.utils.jwt'".toList⟩ :=
  ⟨login_verified E hu hpw,
    fun decodeToken _ _ _ hbearer hheader htoken hne =>
      getCurrentUser_token E decodeToken hbearer hheader htoken hne,
    importDecodeToken_error⟩

theorem registered_login_breaks_token_round_trip :
    ((⟨[⟨1, "ada@example.com".toList, "pw".toList, none, "user".toList⟩], [], []⟩ : AuthDb).userByEmail
        "ada@example.com".toList = some ⟨1, "ada@example.com".toList, "pw".toList, none, "user".toList⟩ ∧
      identityEnv.verifyPassword "pw".toList "pw".toList = true) ∧
    login identityEnv ⟨[⟨1, "ada@example.com".toList, "pw".toList, none, "user".toList⟩], [], []⟩
        ⟨"ada@example.com".toList, "pw".toList⟩ =
      .error (unexpectedKeyword "create_access_token".toList "user_id".toList) ∧
    (∀ (decodeToken : Str → Option Payload) (keys : AuthDb) (request : Request) (token : Str),
      getCurrentUserApiKey identityEnv keys (httpBearer request.authorization) = none →
      getCurrentUserApiKeyHeader identityEnv keys request = none →
      presentedToken request = some token → token ≠ [] →
      getCurrentUser identityEnv decodeToken keys request = .error ⟨"ImportError".toList,
        "cannot import name 'decode_token' from 'api.utils.jwt'".toList⟩) ∧
    loadAuthMiddleware = .error ⟨"ImportError".toList,
      "cannot import name 'decode_token' from 'api.utils.jwt'".toList⟩ := by
  have hu : (⟨[⟨1, "ada@example.com".toList, "pw".toList, none, "user".toList⟩], [], []⟩ :
      AuthDb).userByEmail "ada@example.com".toList =
      some ⟨1, "ada@example.com".toList, "pw".toList, none, "user".toList⟩ := by decide
  have hpw : identityEnv.verifyPassword "pw".toList "pw".toList = true := by decide
  exact ⟨⟨hu, hpw⟩, @login_breaks_token_round_trip identityEnv _
    ⟨"ada@example.com".toList, "pw".toList⟩ _ hu hpw⟩

end RagService.Api
