import CloudApi.App
import CloudApi.XForwardedFor
import CloudApi.Datasets.Routes

/-!
# 要求の通り道（`app.js` の `createServer`）

`createServer` は restify の server に handler を `server.use` で積み、その後に route を mount する。
restify は一つの要求について、積んだ順に handler を呼ぶ。`next()` なら次へ、`next(err)` なら
そこで止まって error を送る。route の handler はその後に走る。

    xForwardedFor, setupSDCProxies, accountMgmt,
    auth.basicAuth, auth.signatureAuth, auth.tokenAuth, auth.assertAuthenticated, auth.loadAccount,
    resources.resourceName, datasets.load, packages.loadPackages, networks.load,
    machines.loadMachine, resources.loadResource, reqRoutename, auth.authorize,
    sendZeroContentLengthon65, readOnlyMode, backCompatXHeaders, saveContext

`auth`・`resources`・`networks`・`machines` は src に無いので、`External` の handler として引数に取る。
`setupSDCProxies` は `req.config` と `req.sdc` を置くだけで、ここでは設定と backend を引数に取るので
積まない。`accountMgmt` の置く `req.accountMgmt` と、`backCompatXHeaders` の写す応答の header は、
モデルのどの handler も読まないので積まない。どれも `next()` しか呼ばない。restify 自身の parser
（`queryParser`・`bodyParser` など）は、`ReqState` を作るまでに済んでいるとする。

## 示すこと

* `serve_read_only` — read only のとき、PUT・POST・DELETE の要求はどの route の handler にも届かない。
  src に無い handler が method を変えない限り、答えは route によらず、前の handler の失敗か
  `SmartDataCenter is being upgraded` である。
* `useChain_preload` — 積んだ handler を通り抜けた要求は、その要求について `preload` が決める
  `req.dataset`・`req.datasets`・`req.pkg` を持って route に届く。`app.js` の handler の並びは
  `App.lean` の `preload` を refine する。
* `saveContext_type` — 監査の記録の `type` は認証の scheme だけで決まり、`token` にはならない。
  Node は header の名前を小文字にするので、`req.headers['X-Auth-Token']` はいつも `undefined` である。
-/

namespace CloudApi

open Js Datasets

/-! ## header -/

/-- Node の `req.headers`。`IncomingMessage` は header の名前を小文字に直して置く。 -/
structure Headers where
  entries : List (String × String)
  lower : ∀ e ∈ entries, toLowerCase e.1 = e.1

instance : DecidableEq Headers := fun a b =>
  decidable_of_iff (a.entries = b.entries)
    ⟨fun h => by cases a; cases b; cases h; rfl, fun h => h ▸ rfl⟩

/-- `req.headers[name]`。 -/
def Headers.get (h : Headers) (name : String) : Option String := h.entries.lookup name

theorem lookup_eq_none_of_ne {l : List (String × String)} {k : String} (h : ∀ e ∈ l, e.1 ≠ k) :
    l.lookup k = none := by
  induction l with
  | nil => rfl
  | cons e l ih =>
    obtain ⟨a, b⟩ := e
    have hk : (k == a) = false := beq_false_of_ne (h (a, b) (List.mem_cons_self _ l)).symm
    show (match k == a with | true => some b | false => l.lookup k) = none
    rw [hk]
    exact ih fun e' he' => h e' (List.mem_cons_of_mem _ he')

/-- 大文字を含む名前で引いても、header は決して見つからない。 -/
theorem Headers.get_eq_none (h : Headers) {name : String} (hn : toLowerCase name ≠ name) :
    h.get name = none :=
  lookup_eq_none_of_ne fun e he hek => hn (hek ▸ h.lower e he)

/-! ## 要求の状態 -/

/-- `req.authorization.signature`。 -/
structure Signature where
  keyId : Option String
  deriving DecidableEq, Repr

/-- `req.authorization`。src に無い `authorization.js` が作る。 -/
structure Authorization where
  scheme : Option String
  signature : Option Signature
  deriving DecidableEq, Repr

/-- `req._auditCtx`。 -/
structure AuditCtx where
  type : String
  ip : String
  user : Option String := none
  keyId : Option String := none
  deriving DecidableEq, Repr

/-- 要求が handler の列を通る間の `req` と `res` のうち、モデルの handler が読み書きするもの。 -/
structure ReqState where
  request : Request
  headers : Headers
  conn : Conn
  authorization : Authorization
  /-- `req.caller.login`。 -/
  caller : String
  /-- `req.route.name`。restify は route の名前を小文字にし、記号を落として置く。 -/
  routeName : String
  images : ImageSel := {}
  pkgs : Packages.PkgSel := {}
  routename : Option String := none
  /-- `res.contentLength = 0` にしたか。 -/
  zeroContentLength : Bool := false
  auditCtx : Option AuditCtx := none
  deriving DecidableEq

/-- 設定のうち、ここの handler が読むもの。 -/
structure Config where
  /-- `config.read_only`。`true` のときだけ `some true`。 -/
  read_only : Option Bool
  deriving DecidableEq, Repr

/-! ## restify の handler の列 -/

/-- restify の handler：`next()` なら次の状態、`next(err)` なら error。 -/
abbrev Handler := ReqState → Except RouteErr ReqState

/-- handler を順に呼ぶ。どれかが `next(err)` に渡せば、そこで止まる。 -/
def runChain (hs : List Handler) (r : ReqState) : Except RouteErr ReqState :=
  hs.foldlM (fun r h => h r) r

@[simp] theorem runChain_nil (r : ReqState) : runChain [] r = .ok r := rfl

@[simp] theorem runChain_cons (h : Handler) (hs : List Handler) (r : ReqState) :
    runChain (h :: hs) r = h r >>= runChain hs := rfl

theorem runChain_append (hs₁ hs₂ : List Handler) (r : ReqState) :
    runChain (hs₁ ++ hs₂) r = runChain hs₁ r >>= runChain hs₂ :=
  List.foldlM_append _ _ _ _

/-- どの handler も `P` を保てば、列を通っても `P` は保たれる。 -/
theorem runChain_preserves {P : ReqState → Prop} :
    ∀ {hs : List Handler}, (∀ h ∈ hs, ∀ r r', P r → h r = .ok r' → P r') →
      ∀ {r r'}, P r → runChain hs r = .ok r' → P r'
  | [], _, _, _, hr, h => by cases h; exact hr
  | g :: hs, hP, r, r', hr, h => by
    obtain ⟨s, hg, h⟩ := bind_eq_ok h
    exact runChain_preserves (fun h' hh => hP h' (List.mem_cons_of_mem g hh))
      (hP g (List.mem_cons_self g hs) r s hr hg) h

/-- handler が `req.method` を変えない。 -/
def KeepsMethod (h : Handler) : Prop := ∀ r r', h r = .ok r' → r'.request.method = r.request.method

/-! ## `app.js` の handler -/

/-- `reqRoutename` の表：role tag を置き換える route。 -/
def resourceTagRoutes : List String :=
  ["replaceaccountroletags", "replaceresourcesroletags", "replaceanalyticsresourcesroletags",
    "replaceuserkeysresourcesroletags", "replaceresourceroletags", "replacemachineroletags",
    "replaceanalyticsresourceroletags", "replaceuserkeysresourceroletags"]

/-- `reqRoutename` の決める `req.routename`。`action` は `req.params.action`。 -/
def reqRoutename (routeName : String) (action : Option String) : String :=
  if routeName != "updatemachine" then
    if resourceTagRoutes.contains routeName then "setroletags" else routeName
  else
    match action with
    | some "enable_firewall" => "enablemachinefirewall"
    | some "disable_firewall" => "disablemachinefirewall"
    | _ => action.getD "undefined" ++ "machine"

/-- PUT・POST・DELETE。`readOnlyMode` と `saveContext` が同じ三つを見る。 -/
def isWrite (method : String) : Bool := method == "PUT" || method == "POST" || method == "DELETE"

/-- `readOnlyMode`：read only の間、書き込みを断る。 -/
def readOnlyMode (config : Config) (req : Request) : Except RouteErr Unit :=
  if isWrite req.method && config.read_only == some true then
    .error (.serviceUnavailable "SmartDataCenter is being upgraded")
  else .ok ()

/-- `saveContext` の置く `req._auditCtx`。scheme が無ければ `toLowerCase` で投げる。 -/
def auditContext (r : ReqState) : Except RouteErr AuditCtx :=
  match r.authorization.scheme with
  | none => .error (.of (.typeError "Cannot call method 'toLowerCase' of undefined"))
  | some scheme =>
    let authType := if toLowerCase scheme = "basic" then "basic" else "signature"
    let authType := if (r.headers.get "X-Auth-Token").isSome then "token" else authType
    let ctx : AuditCtx := { type := authType, ip := r.conn.remoteAddress }
    .ok (if authType = "basic" then { ctx with user := some r.caller }
      else match r.authorization.signature with
        | some sig => { ctx with keyId := sig.keyId }
        | none => ctx)

/-- `saveContext`：machine への書き込みの監査のために、認証の種類と client を記録する。 -/
def saveContext (r : ReqState) : Except RouteErr ReqState :=
  if !includes r.request.url "/machines" then .ok r
  else if !isWrite r.request.method then .ok r
  else do
    let ctx ← auditContext r
    pure { r with auditCtx := some ctx }

/-- `app.js` が積む handler のうち、src に無いもの。 -/
structure External where
  basicAuth : Handler
  signatureAuth : Handler
  tokenAuth : Handler
  assertAuthenticated : Handler
  loadAccount : Handler
  resourceName : Handler
  networksLoad : Handler
  loadMachine : Handler
  loadResource : Handler
  authorize : Handler

def External.handlers (ext : External) : List Handler :=
  [ext.basicAuth, ext.signatureAuth, ext.tokenAuth, ext.assertAuthenticated, ext.loadAccount,
    ext.resourceName, ext.networksLoad, ext.loadMachine, ext.loadResource, ext.authorize]

/-- `server.use(function xForwardedFor …)`。 -/
def Use.xForwardedFor : Handler := fun r =>
  .ok { r with conn := CloudApi.xForwardedFor r.conn (r.headers.get "x-forwarded-for") }

/-- `server.use(datasets.load)`。 -/
def Use.load (imgapi : Imgapi) : Handler := fun r => do
  let images ← (Datasets.load imgapi r.request).mapError .of
  pure { r with images := images }

/-- `server.use(packages.loadPackages)`。 -/
def Use.loadPackages (papi : Papi) : Handler := fun r => do
  let pkgs ← (Packages.loadPackages papi r.request).mapError .of
  pure { r with pkgs := pkgs }

/-- `server.use(function reqRoutename …)`。 -/
def Use.reqRoutename : Handler := fun r =>
  .ok { r with routename := some (CloudApi.reqRoutename r.routeName (r.request.params.lookup "action")) }

/-- `server.use(function sendZeroContentLengthon65 …)`。 -/
def Use.sendZeroContentLengthon65 : Handler := fun r =>
  .ok (if CloudApi.sendZeroContentLengthon65 r.request then { r with zeroContentLength := true } else r)

/-- `server.use(function readOnlyMode …)`。 -/
def Use.readOnlyMode (config : Config) : Handler := fun r => do
  CloudApi.readOnlyMode config r.request
  pure r

/-- `readOnlyMode` より前に積む handler。 -/
def beforeReadOnly (papi : Papi) (imgapi : Imgapi) (ext : External) : List Handler :=
  [Use.xForwardedFor, ext.basicAuth, ext.signatureAuth, ext.tokenAuth, ext.assertAuthenticated,
    ext.loadAccount, ext.resourceName, Use.load imgapi, Use.loadPackages papi, ext.networksLoad,
    ext.loadMachine, ext.loadResource, Use.reqRoutename, ext.authorize, Use.sendZeroContentLengthon65]

/-- `server.use` で積む handler の列。 -/
def useChain (config : Config) (papi : Papi) (imgapi : Imgapi) (ext : External) : List Handler :=
  beforeReadOnly papi imgapi ext ++ [Use.readOnlyMode config, saveContext]

/-- 一つの要求：積んだ handler の後に、route の handler。 -/
def serve (config : Config) (papi : Papi) (imgapi : Imgapi) (ext : External) (route : List Handler)
    (r : ReqState) : Except RouteErr ReqState :=
  runChain (useChain config papi imgapi ext ++ route) r

/-! ## read only -/

section ReadOnly

variable {papi : Papi} {imgapi : Imgapi} {ext : External}

theorem Use.xForwardedFor_keepsMethod : KeepsMethod Use.xForwardedFor := by
  intro r r' h; cases h; rfl

theorem Use.load_keepsMethod : KeepsMethod (Use.load imgapi) := by
  intro r r' h
  obtain ⟨_, -, h⟩ := bind_eq_ok h
  cases h; rfl

theorem Use.loadPackages_keepsMethod : KeepsMethod (Use.loadPackages papi) := by
  intro r r' h
  obtain ⟨_, -, h⟩ := bind_eq_ok h
  cases h; rfl

theorem Use.reqRoutename_keepsMethod : KeepsMethod Use.reqRoutename := by
  intro r r' h; cases h; rfl

theorem Use.sendZeroContentLengthon65_keepsMethod : KeepsMethod Use.sendZeroContentLengthon65 := by
  intro r r' h; cases h; split <;> rfl

/-- `src` に無い handler が method を変えなければ、`readOnlyMode` まで method は変わらない。 -/
theorem beforeReadOnly_keepsMethod (hext : ∀ h ∈ ext.handlers, KeepsMethod h) :
    ∀ h ∈ beforeReadOnly papi imgapi ext, KeepsMethod h := by
  simp only [External.handlers, List.mem_cons, List.mem_singleton, List.not_mem_nil, or_false,
    forall_eq_or_imp, forall_eq] at hext
  obtain ⟨h1, h2, h3, h4, h5, h6, h7, h8, h9, h10⟩ := hext
  simp only [beforeReadOnly, List.mem_cons, List.mem_singleton, List.not_mem_nil, or_false,
    forall_eq_or_imp, forall_eq]
  exact ⟨Use.xForwardedFor_keepsMethod, h1, h2, h3, h4, h5, h6, Use.load_keepsMethod,
    Use.loadPackages_keepsMethod, h7, h8, h9, Use.reqRoutename_keepsMethod, h10,
    Use.sendZeroContentLengthon65_keepsMethod⟩

/--
**read only のとき、PUT・POST・DELETE の要求はどの route の handler にも届かない。** src に無い
handler が method を変えない限り、答えは route によらず、`readOnlyMode` より前の handler の
最初の失敗か、`SmartDataCenter is being upgraded` である。
-/
theorem serve_read_only {config : Config} {r : ReqState} (hro : config.read_only = some true)
    (hw : isWrite r.request.method = true) (hext : ∀ h ∈ ext.handlers, KeepsMethod h)
    (route : List Handler) :
    serve config papi imgapi ext route r =
      (runChain (beforeReadOnly papi imgapi ext) r >>= fun _ =>
        .error (.serviceUnavailable "SmartDataCenter is being upgraded")) := by
  rw [serve, useChain, List.append_assoc, runChain_append]
  cases h : runChain (beforeReadOnly papi imgapi ext) r with
  | error e => rfl
  | ok r' =>
    have hm : r'.request.method = r.request.method :=
      runChain_preserves (P := fun s => s.request.method = r.request.method)
        (fun g hg s s' hs h => (beforeReadOnly_keepsMethod hext g hg s s' h).trans hs) rfl h
    simp [Use.readOnlyMode, readOnlyMode, hm, hw, hro]

/-- 認証が何もしない server に、read only の間に image を作る要求が来る。 -/
theorem serve_read_only_post :
    let ext : External := ⟨.ok, .ok, .ok, .ok, .ok, .ok, .ok, .ok, .ok, .ok⟩
    let cat : Catalog := ⟨[], []⟩
    let r : ReqState :=
      { request := ⟨"/T/images", "POST", [("account", "T")], "7.0.0", ⟨"t", "T"⟩⟩,
        headers := ⟨[], fun _ h => nomatch h⟩, conn := ⟨none, "10.0.0.2"⟩,
        authorization := ⟨some "Signature", none⟩, caller := "T",
        routeName := "createimagefrommachine" }
    (⟨some true⟩ : Config).read_only = some true ∧ isWrite r.request.method = true ∧
      (∀ h ∈ ext.handlers, KeepsMethod h) ∧
      serve ⟨some true⟩ cat.papi cat.imgapi ext [] r =
        (runChain (beforeReadOnly cat.papi cat.imgapi ext) r >>= fun _ =>
          .error (.serviceUnavailable "SmartDataCenter is being upgraded")) := by
  intro ext cat r
  have hext : ∀ h ∈ ext.handlers, KeepsMethod h := by
    intro h hh
    obtain rfl : h = Except.ok := by simpa [ext, External.handlers] using hh
    exact fun r r' h => by cases h; rfl
  exact ⟨rfl, by decide, hext, serve_read_only rfl (by decide) hext []⟩

end ReadOnly

/-! ## 先読みの届き方 -/

section Preload

variable {config : Config} {papi : Papi} {imgapi : Imgapi} {ext : External}

/-- handler が `f` で見える部分を変えない。 -/
def Keeps {α : Type} (f : ReqState → α) (h : Handler) : Prop := ∀ r r', h r = .ok r' → f r' = f r

/-- どの handler も `f` で見える部分を変えなければ、列を通っても変わらない。 -/
theorem runChain_keeps {α : Type} {f : ReqState → α} {hs : List Handler}
    (hk : ∀ h ∈ hs, Keeps f h) {r r' : ReqState} (h : runChain hs r = .ok r') : f r' = f r :=
  runChain_preserves (P := fun s => f s = f r)
    (fun g hg s s' hs hgs => (hk g hg s s' hgs).trans hs) rfl h

/-- route の handler が読む先読みの結果と、それを決めた要求。 -/
def ReqState.preloadView (r : ReqState) : Request × ImageSel × Packages.PkgSel :=
  (r.request, r.images, r.pkgs)

theorem Use.reqRoutename_keeps : Keeps ReqState.preloadView Use.reqRoutename := by
  intro r r' h; cases h; rfl

theorem Use.sendZeroContentLengthon65_keeps :
    Keeps ReqState.preloadView Use.sendZeroContentLengthon65 := by
  intro r r' h; cases h; split <;> rfl

theorem Use.readOnlyMode_keeps : Keeps ReqState.preloadView (Use.readOnlyMode config) := by
  intro r r' h
  obtain ⟨_, -, h⟩ := bind_eq_ok h
  cases h; rfl

theorem saveContext_keeps : Keeps ReqState.preloadView saveContext := by
  intro r r' h
  unfold saveContext at h
  split_ifs at h
  · cases h; rfl
  · cases h; rfl
  · obtain ⟨_, -, h⟩ := bind_eq_ok h
    cases h; rfl

/-- `Use.load` と `Use.loadPackages` を続けて通った後の `req` は、その要求の `preload` を持つ。 -/
theorem load_loadPackages_preload {s₀ s₁ s₂ : ReqState} (h₁ : Use.load imgapi s₀ = .ok s₁)
    (h₂ : Use.loadPackages papi s₁ = .ok s₂) :
    preload papi imgapi s₂.request = .ok ⟨s₂.images, s₂.pkgs⟩ := by
  obtain ⟨images, hi, h₁⟩ := bind_eq_ok h₁
  cases h₁
  obtain ⟨pkgs, hp, h₂⟩ := bind_eq_ok h₂
  cases h₂
  rw [mapError_eq_ok] at hi hp
  simp only [preload, hi, hp, ok_bind]
  rfl

/--
**どの route の handler にも、`req.dataset`・`req.datasets` と `req.pkg` は、その handler の見る
要求について `preload` の決めるとおりに届く。** src に無い handler のうち `datasets.load` より
後に積まれたもの（`networks.load`・`machines.loadMachine`・`resources.loadResource`・
`auth.authorize`）が、要求と二つの選択を変えないことを前提とする。
-/
theorem useChain_preload {r r' : ReqState}
    (hext : ∀ h ∈ [ext.networksLoad, ext.loadMachine, ext.loadResource, ext.authorize],
      Keeps ReqState.preloadView h)
    (h : runChain (useChain config papi imgapi ext) r = .ok r') :
    preload papi imgapi r'.request = .ok ⟨r'.images, r'.pkgs⟩ := by
  have hsplit : useChain config papi imgapi ext =
      [Use.xForwardedFor, ext.basicAuth, ext.signatureAuth, ext.tokenAuth, ext.assertAuthenticated,
        ext.loadAccount, ext.resourceName] ++ Use.load imgapi :: Use.loadPackages papi ::
      [ext.networksLoad, ext.loadMachine, ext.loadResource, Use.reqRoutename, ext.authorize,
        Use.sendZeroContentLengthon65, Use.readOnlyMode config, saveContext] := rfl
  rw [hsplit, runChain_append] at h
  obtain ⟨s₀, -, h⟩ := bind_eq_ok h
  obtain ⟨s₁, h₁, h⟩ := bind_eq_ok h
  obtain ⟨s₂, h₂, h⟩ := bind_eq_ok h
  have hk : ∀ g ∈ [ext.networksLoad, ext.loadMachine, ext.loadResource, Use.reqRoutename,
      ext.authorize, Use.sendZeroContentLengthon65, Use.readOnlyMode config, saveContext],
      Keeps ReqState.preloadView g := by
    simp only [List.mem_cons, List.mem_singleton, List.not_mem_nil, or_false,
      forall_eq_or_imp, forall_eq] at hext ⊢
    obtain ⟨hn, hm, hr, ha⟩ := hext
    exact ⟨hn, hm, hr, Use.reqRoutename_keeps, ha, Use.sendZeroContentLengthon65_keeps,
      Use.readOnlyMode_keeps, saveContext_keeps⟩
  have hv : r'.preloadView = s₂.preloadView := runChain_keeps hk h
  simp only [ReqState.preloadView, Prod.mk.injEq] at hv
  rw [hv.1, hv.2.1, hv.2.2]
  exact load_loadPackages_preload h₁ h₂

/-- 認証が何もしない server に、package を名前で指す machine の作成が来る。 -/
theorem useChain_preload_create_machine :
    let ext : External := ⟨.ok, .ok, .ok, .ok, .ok, .ok, .ok, .ok, .ok, .ok⟩
    let cat : Catalog :=
      ⟨[{ uuid := "p1", name := some "small", version := some "1.0.0", «default» := true }],
        [{ uuid := "i1", name := some "base", os := some "smartos", owner := some "t",
           state := some "active" }]⟩
    let r : ReqState :=
      { request := ⟨"/T/machines", "POST", [("account", "T"), ("image", "base"),
          ("package", "small")], "7.0.0", ⟨"t", "T"⟩⟩,
        headers := ⟨[], fun _ h => nomatch h⟩, conn := ⟨none, "10.0.0.2"⟩,
        authorization := ⟨some "Signature", none⟩, caller := "T", routeName := "createmachine" }
    let r' : ReqState :=
      { r with
        conn := ⟨some "10.0.0.2", "10.0.0.2"⟩, images := { datasets := some cat.images },
        pkgs := { pkg := cat.packages.head? }, routename := some "createmachine",
        auditCtx := some ⟨"signature", "10.0.0.2", none, none⟩ }
    (∀ h ∈ [ext.networksLoad, ext.loadMachine, ext.loadResource, ext.authorize],
        Keeps ReqState.preloadView h) ∧
      runChain (useChain ⟨none⟩ cat.papi cat.imgapi ext) r = .ok r' ∧
      preload cat.papi cat.imgapi r'.request = .ok ⟨r'.images, r'.pkgs⟩ := by
  intro ext cat r r'
  have hext : ∀ h ∈ [ext.networksLoad, ext.loadMachine, ext.loadResource, ext.authorize],
      Keeps ReqState.preloadView h := by
    intro h hh
    obtain rfl : h = Except.ok := by simpa [ext] using hh
    exact fun r r' h => by cases h; rfl
  have h : runChain (useChain ⟨none⟩ cat.papi cat.imgapi ext) r = .ok r' := by decide
  exact ⟨hext, h, useChain_preload hext h⟩

end Preload

/-! ## 監査の記録 -/

/-- `X-Auth-Token` の header は、Node の `req.headers` では決して見つからない。 -/
theorem Headers.get_xAuthToken (h : Headers) : h.get "X-Auth-Token" = none :=
  h.get_eq_none (by decide)

/-- `auditContext` の `type` は scheme だけで決まる。 -/
theorem auditContext_type {r : ReqState} {c : AuditCtx} (h : auditContext r = .ok c) :
    ∃ scheme, r.authorization.scheme = some scheme ∧
      c.type = if toLowerCase scheme = "basic" then "basic" else "signature" := by
  unfold auditContext at h
  split at h
  · cases h
  · next scheme hs =>
    refine ⟨scheme, hs, ?_⟩
    simp only [Headers.get_xAuthToken, Option.isSome_none, Bool.false_eq_true, if_false,
      Except.ok.injEq] at h
    subst h
    split_ifs <;> first | rfl | split <;> rfl

/--
**`saveContext` は監査の記録を変えないか、認証の scheme だけで決まる `type`（`basic` か
`signature`）の記録を置く。`token` の記録は決して置かない。** Node は header の名前を小文字に
するので、`typeof (req.headers['X-Auth-Token']) !== 'undefined'` はいつも偽である。
-/
theorem saveContext_type {r r' : ReqState} (h : saveContext r = .ok r') :
    r'.auditCtx = r.auditCtx ∨
      ∃ scheme c, r.authorization.scheme = some scheme ∧ r'.auditCtx = some c ∧
        c.type = if toLowerCase scheme = "basic" then "basic" else "signature" := by
  unfold saveContext at h
  split at h
  · cases h; exact .inl rfl
  split at h
  · cases h; exact .inl rfl
  obtain ⟨c, hc, h⟩ := bind_eq_ok h
  cases h
  obtain ⟨scheme, hs, ht⟩ := auditContext_type hc
  exact .inr ⟨scheme, c, hs, rfl, ht⟩

/-- token の header があっても、`Signature` の scheme の書き込みは `signature` と記録される。 -/
theorem saveContext_type_token_header :
    let r : ReqState :=
      { request := ⟨"/T/machines", "POST", [("account", "T")], "7.0.0", ⟨"t", "T"⟩⟩,
        headers := ⟨[("x-auth-token", "tok")], by decide⟩, conn := ⟨none, "10.0.0.2"⟩,
        authorization := ⟨some "Signature", some ⟨some "/T/keys/k1"⟩⟩, caller := "T",
        routeName := "createmachine" }
    let r' : ReqState := { r with auditCtx := some ⟨"signature", "10.0.0.2", none, some "/T/keys/k1"⟩ }
    saveContext r = .ok r' ∧
      (r'.auditCtx = r.auditCtx ∨
        ∃ scheme c, r.authorization.scheme = some scheme ∧ r'.auditCtx = some c ∧
          c.type = if toLowerCase scheme = "basic" then "basic" else "signature") := by
  intro r r'
  have h : saveContext r = .ok r' := by decide
  exact ⟨h, saveContext_type h⟩

end CloudApi
