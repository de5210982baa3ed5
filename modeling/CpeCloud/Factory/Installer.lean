import CpeCloud.AutoEnroll.Handler

/-!
# `factory_installer` (`app/routers/factory.py`)

The download of the installer, run to its end by one request with nothing else going on: a rate
limit, the lookup of the token, the check of the secret, and the update of the token's row.

* **`factoryInstaller_effect`**: what a download can do.
-/

namespace CpeCloud

/-- A GET of `/factory/self-enroll.rsc`, with what else is read while it runs. -/
structure FetchCall where
  sourceIp : Stored
  /-- The query parameter. -/
  t : Text
  t_len : 16 ≤ t.length ∧ t.length ≤ 128
  /-- `time.monotonic()` at the rate limit. -/
  clock : ℚ
  /-- `datetime.now` in the lookup, at the use, and when the installer is rendered. -/
  now : Timestamp
  usedAt : Timestamp
  generatedAt : Timestamp

/-- The variables `factory-installer.rsc.j2` is rendered with. -/
structure InstallerContext where
  provisioningSecret : Text
  enrollmentUrl : Text
  serverFqdn : Text
  generatedAt : Timestamp
  tokenLabel : Text
  deriving DecidableEq

/-- An error script, or the rendered installer. -/
inductive Installer where
  | text (t : Text)
  | rendered (ctx : InstallerContext)
  deriving DecidableEq

/-- A response. -/
structure FetchResponse where
  body : Installer
  statusCode : Nat
  mediaType : String
  deriving DecidableEq

/-- `_rsc_response(_rsc_error(message), status_code)`. -/
def fetchRejection (message : String) (statusCode : Nat) : FetchResponse where
  body := .text (":log error \"cpe-cloud factory-prep rejected: ".toList ++
    (message.toList.map fun c => if c = '\x22' then '\x27' else c) ++ "\"\n".toList)
  statusCode := statusCode
  mediaType := "text/plain; charset=utf-8"

/-- The installer. -/
def installer (S : Settings) (c : FetchCall) (row : AdminFetchToken) : FetchResponse where
  body := .rendered {
    provisioningSecret := S.provisioningSecretCurrent
    enrollmentUrl := S.enrollmentUrl
    serverFqdn := S.serverFqdn
    generatedAt := c.generatedAt
    tokenLabel := row.label }
  statusCode := 200
  mediaType := "text/plain; charset=utf-8"

/-- The assignments to the row and the increment, as the UPDATE of the row `current` writes
them. -/
def AdminFetchToken.used (loaded : AdminFetchToken) (now : Timestamp) (current : AdminFetchToken) :
    AdminFetchToken :=
  { current with
    useCount := loaded.useCount + 1
    lastUsedAt := written loaded.lastUsedAt (some now) current.lastUsedAt }

/-- `factory_installer`. -/
def factoryInstaller (D : Deployment) (w : World) (c : FetchCall) :
    Except Exc FetchResponse × World :=
  match checkRateLimit w.buckets "fetch".toList c.sourceIp.1 c.clock with
  | (false, bs) => (.ok (fetchRejection "rate limit exceeded" 429), { w with buckets := bs })
  | (true, bs) =>
    let w := { w with buckets := bs }
    match findValidAdminToken D.toBackend w.db.adminFetchTokens c.now c.t with
    | .error e => (.error e, w)
    | .ok none => (.ok (fetchRejection "fetch token expired or invalid" 401), w)
    | .ok (some row) =>
      if D.provisioningSecretCurrent = [] then
        (.ok (fetchRejection "server has no active provisioning secret" 500), w)
      else
        let db := { w.db with
          adminFetchTokens :=
            Rows.amend AdminFetchToken.id row.id (row.used c.usedAt) w.db.adminFetchTokens }
        (.ok (installer D.toSettings c row), { w with db := db })

/-! ## What a download does -/

/-- What a download can do. -/
inductive DownloadEffect (D : Deployment) (w : World) (c : FetchCall) :
    Except Exc FetchResponse × World → Prop where
  /-- It is turned away, and only the rate limiter has taken note. -/
  | refused (res : Except Exc FetchResponse) (bs : Buckets)
      (hres : ∀ r, res = .ok r → r.statusCode ≠ 200) :
      DownloadEffect D w c (res, { w with buckets := bs })
  /-- It is served, and its token counts it. -/
  | served (row : AdminFetchToken) (bs : Buckets)
      (hfind : findValidAdminToken D.toBackend w.db.adminFetchTokens c.now c.t = .ok (some row))
      (hsecret : D.provisioningSecretCurrent ≠ []) :
      DownloadEffect D w c (.ok (installer D.toSettings c row), { w with
        buckets := bs
        db := { w.db with
          adminFetchTokens :=
            Rows.amend AdminFetchToken.id row.id (row.used c.usedAt) w.db.adminFetchTokens } })

theorem fetchRejection_statusCode (message : String) {n : Nat} (hn : n ≠ 200) (r : FetchResponse)
    (h : (.ok (fetchRejection message n) : Except Exc FetchResponse) = .ok r) :
    r.statusCode ≠ 200 := by
  obtain rfl := Except.ok.inj h
  exact hn

/-- **What a download can do**, once and for all. -/
theorem factoryInstaller_effect (D : Deployment) (w : World) (c : FetchCall) :
    DownloadEffect D w c (factoryInstaller D w c) := by
  unfold factoryInstaller
  split
  · exact .refused _ _ (fetchRejection_statusCode _ (by decide))
  · simp only
    split
    · exact .refused _ _ (by simp)
    · exact .refused _ _ (fetchRejection_statusCode _ (by decide))
    · rename_i row hfind
      split
      · exact .refused _ _ (fetchRejection_statusCode _ (by decide))
      · rename_i hsecret
        exact .served row _ hfind hsecret

end CpeCloud
