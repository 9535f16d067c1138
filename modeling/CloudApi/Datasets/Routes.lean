import CloudApi.Datasets.Load

/-!
# image の route（`datasets.mount`）

`datasets.mount` の route は、先読みの後に `before`（throttle）、`reqBleedingEdge`（設定の
`bleeding_edge_*` を要求に写す）、handler の順に走る。image を作る・書き出す・消す三つの route は、
その前に `bleedingEdgeGuard(config, 'img_mgmt')` を置く。

* `get` — `req.dataset` を translate して返す。無ければ `ResourceNotFound`。
* `create` — VM から image を作る。`machine`・`name`・`version` が要り、manifest には
  決まった五つの属性だけを写す。IMGAPI の失敗は `errFromImgapiErr` を通してそのまま返すが、
  応答の `body` の無い失敗では `errFromImgapiErr` が `TypeError` を投げる。
* `exportImage` — `action=export` と `manta_path` が要る。
* `apiDeleteImage` — いつも `NotSupported`。`del` は mount されていない。

`reqBleedingEdge` の効き目は、handler の `translate` に設定の `BleedingEdge` を渡すことで表す。
`before` は src に無い throttle で、要求を断ることしかしないので、route のモデルはその後から始める。
`create` の応答の本体 `translate(req, data)` の `acl` と `tags` は `req.params` の値そのもので、
`Image` には param の値（`FieldValue.param`）として写す。

## 示すこと

* `list_after_load` — 6.5 でない client の一覧は、`T` に絞った IMGAPI の問い合わせへの答えを
  並びのまま translate したもの。
* `get_after_load_not_destroyed` — 一つの image を返す route は、destroyed な image を決して返さない。
* `createImageFromMachine_ok` — image を作る route が成功すれば、guard は login を通しており、
  IMGAPI には要求者の account と許された属性だけが渡り、応答は `state: 'creating'` を見せる。
-/

namespace CloudApi.Datasets

open Js

/-- route の handler が `next(err)` に渡すもの：先読みと backend の失敗と、restify の error class。 -/
inductive RouteErr where
  | of (e : Err)
  | missingParameter (msg : String)
  | invalidArgument (msg : String)
  | serviceUnavailable (msg : String)
  /-- `apiDeleteImage` の `Error`（`body.code` が `NotSupported`）。 -/
  | notSupported (msg : String)
  deriving DecidableEq, Repr

/-! ## `bleedingEdgeGuard` -/

/--
`bleedingEdgeGuard(config, feature)` の返す handler。`features[feature]` が truthy なら、
whitelist に login か `*` があるときだけ通す。どちらも `JSON.parse` の object なので、
`Object.prototype` の property にも当たる。
-/
def bleedingEdgeGuard (config : BleedingEdge) (feature : String) (req : Request) : Except Err Unit :=
  let hide : Except Err Unit := .error (.notFound (req.url ++ " does not exist"))
  match config.features with
  | some f =>
    if f.truthyAt feature then
      match config.whitelist with
      | some w => if w.truthyAt req.account.login || w.truthyAt "*" then .ok () else hide
      | none => hide
    else hide
  | none => hide

/-- **`img_mgmt` の guard は、`translate` の門と同じ判定で通す。** -/
theorem bleedingEdgeGuard_img_mgmt (config : BleedingEdge) (req : Request) :
    bleedingEdgeGuard config "img_mgmt" req =
      if imgMgmt config req.account.login then .ok ()
      else .error (.notFound (req.url ++ " does not exist")) := by
  unfold bleedingEdgeGuard imgMgmt
  rcases config with ⟨_ | f, _ | w⟩ <;> simp only [Bool.false_and, Bool.and_false] <;> split <;>
    simp_all

/-! ## 一つの image を返す -/

/-- `get(req, res, next)`：`req.dataset` を translate する。 -/
def get (req : Request) (be : BleedingEdge) (sel : ImageSel) : Except Err ImageView :=
  match sel.dataset with
  | some d => .ok (translate req be sel.dataset d)
  | none => .error (.notFound (((req.params.lookup "dataset").getD "undefined") ++ " not found"))

/-! ## image を作る -/

/--
`errFromImgapiErr(imgapiErr)`：`switch (imgapiErr.body.code)` の `default` で、失敗をそのまま返す。
`body` の無い失敗では `imgapiErr.body.code` を読むところで `TypeError` を投げる。
-/
def errFromImgapiErr (imgapiErr : Err) : Except Err Err :=
  if imgapiErr.hasBody then .ok imgapiErr
  else .error (.typeError "Cannot read property 'code' of undefined")

/-- `createImageFromVm` の callback の失敗の側：`next(errFromImgapiErr(err))`。投げれば、その失敗で終わる。 -/
def imgapiResult {α : Type} : Except Err α → Except RouteErr α
  | .ok a => .ok a
  | .error e =>
    .error (.of (match errFromImgapiErr e with
      | .ok err => err
      | .error thrown => thrown))

@[simp] theorem imgapiResult_eq_ok {α : Type} {x : Except Err α} {a : α} :
    imgapiResult x = .ok a ↔ x = .ok a := by
  cases x <;> simp [imgapiResult]

/-- `create` が manifest に写す属性。 -/
def manifestAttributes : List String := ["description", "homepage", "eula", "acl", "tags"]

/-- `createImageFromVm(data, {vm_uuid, incremental: true}, req.account.uuid)` の引数。 -/
structure CreateRequest where
  /-- `data`：key と値を、置いた順に。 -/
  data : List (String × String)
  vm_uuid : String
  incremental : Bool
  account : String
  deriving DecidableEq, Repr

/-- `createImageFromVm` の返す job。 -/
structure Job where
  image_uuid : String
  job_uuid : String
  deriving DecidableEq, Repr

/-- `create` の検査と、IMGAPI に渡す引数。`typeof (req.params[k]) !== 'undefined'` の属性だけを写す。 -/
def createRequest (req : Request) : Except RouteErr CreateRequest :=
  match req.arg "machine", req.arg "name", req.arg "version" with
  | none, _, _ => .error (.missingParameter "machine is a required argument")
  | some _, none, _ => .error (.missingParameter "Image name is a required argument")
  | some _, some _, none => .error (.missingParameter "Image version is a required argument")
  | some machine, some name, some version =>
    .ok ⟨[("name", name), ("version", version)] ++
        manifestAttributes.filterMap (fun k => (req.params.lookup k).map fun v => (k, v)),
      machine, true, req.account.uuid⟩

/-- `data.uuid = job.image_uuid; data.state = 'creating'` の後の `data` を、`translate` の読む image に。 -/
def createdImage (data : List (String × String)) (job : Job) : Image :=
  { uuid := job.image_uuid, name := data.lookup "name", version := data.lookup "version",
    description := data.lookup "description", homepage := data.lookup "homepage",
    eula := data.lookup "eula", acl := (data.lookup "acl").map .param,
    tags := (data.lookup "tags").map .param, state := some "creating" }

/-- `res.send(201, …)` の応答：`x-joyent-jobid`、`Location`、本体。 -/
structure Created where
  jobId : String
  location : String
  body : ImageView
  deriving DecidableEq, Repr

/-- `create(req, res, next)`。`selected` は `req.dataset`。 -/
def create (createImageFromVm : CreateRequest → Except Err Job) (req : Request) (be : BleedingEdge)
    (selected : Option Image) : Except RouteErr Created := do
  let c ← createRequest req
  let job ← imgapiResult (createImageFromVm c)
  pure ⟨job.job_uuid, "/" ++ req.account.login ++ "/images/" ++ job.image_uuid,
    translate req be selected (createdImage c.data job)⟩

/-- `POST /:account/images`（`CreateImageFromMachine`）：guard の後に `create`。 -/
def Route.createImageFromMachine (config : BleedingEdge)
    (createImageFromVm : CreateRequest → Except Err Job) (req : Request) (selected : Option Image) :
    Except RouteErr Created := do
  (bleedingEdgeGuard config "img_mgmt" req).mapError .of
  create createImageFromVm req config selected

/-! ## image を書き出す -/

/-- `exportImage(imageUUID, req.account.uuid, {manta_path})` の引数。 -/
structure ExportRequest where
  /-- `req.params.image || req.params.dataset`。 -/
  uuid : Option String
  account : String
  manta_path : String
  deriving DecidableEq, Repr

/-- `exportImage` の検査と、IMGAPI に渡す引数。 -/
def exportRequest (req : Request) : Except RouteErr ExportRequest :=
  match req.arg "action" with
  | some "export" =>
    match req.arg "manta_path" with
    | some path => .ok ⟨req.imageUUID, req.account.uuid, path⟩
    | none => .error (.missingParameter "Image destination manta_path is a required argument")
  | _ =>
    .error (.invalidArgument
      ("action " ++ (req.params.lookup "action").getD "undefined" ++ " is not a valid argument"))

/-- `exportImage(req, res, next)`：IMGAPI の答えをそのまま送る。 -/
def exportImage {α : Type} (imgapiExport : ExportRequest → Except Err α) (req : Request) :
    Except RouteErr α := do
  let e ← exportRequest req
  (imgapiExport e).mapError .of

/-- `POST /:account/images/:dataset`（`ExportImage`）：guard の後に `exportImage`。 -/
def Route.exportImage {α : Type} (config : BleedingEdge) (imgapiExport : ExportRequest → Except Err α)
    (req : Request) : Except RouteErr α := do
  (bleedingEdgeGuard config "img_mgmt" req).mapError .of
  Datasets.exportImage imgapiExport req

/-! ## image を消す -/

/-- `apiDeleteImage`：消さずに `NotSupported` を返す。 -/
def apiDeleteImage : Except RouteErr Unit :=
  .error (.notSupported "deleting a custom image is not currently supported")

/-- `DELETE /:account/images/:dataset`（`DeleteImage`）：guard の後に `apiDeleteImage`。 -/
def Route.deleteImage (config : BleedingEdge) (req : Request) : Except RouteErr Unit := do
  (bleedingEdgeGuard config "img_mgmt" req).mapError .of
  apiDeleteImage

/-! ## 検査の答え -/

section Checks

variable {req : Request}

/-- `create` の検査の失敗は、最初に欠けた param の名前を言う。 -/
theorem createRequest_error {e : RouteErr} (h : createRequest req = .error e) :
    (req.arg "machine" = none ∧ e = .missingParameter "machine is a required argument") ∨
    (req.arg "machine" ≠ none ∧ req.arg "name" = none ∧
      e = .missingParameter "Image name is a required argument") ∨
    (req.arg "machine" ≠ none ∧ req.arg "name" ≠ none ∧ req.arg "version" = none ∧
      e = .missingParameter "Image version is a required argument") := by
  unfold createRequest at h
  split at h <;> cases h <;> simp_all

/-- `create` の検査を通れば、IMGAPI には `machine` と、名前と版と、与えられた属性が渡る。 -/
theorem createRequest_ok {c : CreateRequest} (h : createRequest req = .ok c) :
    ∃ machine name version, req.arg "machine" = some machine ∧ req.arg "name" = some name ∧
      req.arg "version" = some version ∧
      c = ⟨[("name", name), ("version", version)] ++
          manifestAttributes.filterMap (fun k => (req.params.lookup k).map fun v => (k, v)),
        machine, true, req.account.uuid⟩ := by
  unfold createRequest at h
  split at h <;> cases h
  exact ⟨_, _, _, ‹_›, ‹_›, ‹_›, rfl⟩

/-- manifest の key は `name`・`version` と五つの属性だけ。`owner`・`public`・`state` は写らない。 -/
theorem createRequest_keys {c : CreateRequest} (h : createRequest req = .ok c) :
    ∀ kv ∈ c.data, kv.1 ∈ "name" :: "version" :: manifestAttributes := by
  obtain ⟨_, _, _, -, -, -, rfl⟩ := createRequest_ok h
  intro kv hkv
  rcases List.mem_append.1 hkv with hkv | hkv
  · rcases List.mem_pair.1 hkv with rfl | rfl <;> simp
  · obtain ⟨k, hk, hkv⟩ := List.mem_filterMap.1 hkv
    obtain ⟨v, -, rfl⟩ := Option.map_eq_some'.1 hkv
    exact List.mem_cons_of_mem _ (List.mem_cons_of_mem _ hk)

/--
IMGAPI が失敗すれば、`create` はその失敗で終わる。応答の `body` の無い失敗では、
`errFromImgapiErr` の投げる `TypeError` で終わる。
-/
theorem create_error_of_imgapi {createImageFromVm : CreateRequest → Except Err Job}
    {be : BleedingEdge} {selected : Option Image} {c : CreateRequest} {e : Err}
    (hc : createRequest req = .ok c) (he : createImageFromVm c = .error e) :
    create createImageFromVm req be selected =
      .error (.of (if e.hasBody then e else .typeError "Cannot read property 'code' of undefined")) := by
  rw [create, hc, ok_bind, he]
  cases hb : e.hasBody <;> simp only [imgapiResult, errFromImgapiErr, hb] <;> rfl

/-- `exportImage` の検査の失敗は、`action` か `manta_path` を言う。 -/
theorem exportRequest_error {e : RouteErr} (h : exportRequest req = .error e) :
    (req.arg "action" ≠ some "export" ∧ e = .invalidArgument
      ("action " ++ (req.params.lookup "action").getD "undefined" ++ " is not a valid argument")) ∨
    (req.arg "action" = some "export" ∧ req.arg "manta_path" = none ∧
      e = .missingParameter "Image destination manta_path is a required argument") := by
  unfold exportRequest at h
  split at h
  · next ha => split at h <;> cases h; exact .inr ⟨ha, ‹_›, rfl⟩
  · next ha => cases h; exact .inl ⟨ha, rfl⟩

/-- `exportImage` の検査を通れば、`action` は `export` で、IMGAPI には要求者の account が渡る。 -/
theorem exportRequest_ok {e : ExportRequest} (h : exportRequest req = .ok e) :
    req.arg "action" = some "export" ∧ req.arg "manta_path" = some e.manta_path ∧
      e.uuid = req.imageUUID ∧ e.account = req.account.uuid := by
  unfold exportRequest at h
  split at h
  · next ha => split at h <;> cases h; exact ⟨ha, ‹_›, rfl, rfl⟩
  · cases h

end Checks

/-! ## image の管理の route -/

section Mgmt

variable {config : BleedingEdge} {req : Request}

/-- guard を通った後のことは、guard が `imgMgmt` で通したときに限る。 -/
theorem guard_bind_eq_ok {β : Type} {k : Unit → Except RouteErr β} {b : β}
    (h : ((bleedingEdgeGuard config "img_mgmt" req).mapError RouteErr.of >>= k) = .ok b) :
    imgMgmt config req.account.login = true ∧ k () = .ok b := by
  obtain ⟨u, hg, h⟩ := bind_eq_ok h
  rw [mapError_eq_ok, bleedingEdgeGuard_img_mgmt] at hg
  split at hg
  · exact ⟨‹_›, h⟩
  · cases hg

/-- **image を消す route は決して成功しない。** guard が通せば `NotSupported`、通さなければ `ResourceNotFound`。 -/
theorem Route.deleteImage_eq (config : BleedingEdge) (req : Request) :
    Route.deleteImage config req =
      .error (if imgMgmt config req.account.login
        then .notSupported "deleting a custom image is not currently supported"
        else .of (.notFound (req.url ++ " does not exist"))) := by
  unfold Route.deleteImage
  rw [bleedingEdgeGuard_img_mgmt]
  split <;> rfl

/-- 書き出す route が成功すれば、guard は login を通し、IMGAPI には検査を通った引数だけが渡った。 -/
theorem Route.exportImage_ok {α : Type} {imgapiExport : ExportRequest → Except Err α} {a : α}
    (h : Route.exportImage config imgapiExport req = .ok a) :
    imgMgmt config req.account.login = true ∧
      ∃ e, exportRequest req = .ok e ∧ e.account = req.account.uuid ∧ imgapiExport e = .ok a := by
  obtain ⟨himg, h⟩ := guard_bind_eq_ok h
  obtain ⟨e, he, h⟩ := bind_eq_ok h
  exact ⟨himg, e, he, (exportRequest_ok he).2.2.2, mapError_eq_ok.1 h⟩

/--
**image を作る route が成功すれば、guard は login を通しており、IMGAPI への一つの呼び出しには
要求者の account と、`name`・`version` と五つの属性だけが渡った。** 応答は新しい image の uuid を
`Location` と `id` に持ち、`state: 'creating'` を見せる。guard の判定は `translate` の門と同じなので、
`/:account/images` の上では門が開いている。
-/
theorem createImageFromMachine_ok {createImageFromVm : CreateRequest → Except Err Job}
    {selected : Option Image} {out : Created} (hurl : isDeprecatedEndpoint req.url = false)
    (h : Route.createImageFromMachine config createImageFromVm req selected = .ok out) :
    imgMgmt config req.account.login = true ∧
      ∃ c job, createRequest req = .ok c ∧ createImageFromVm c = .ok job ∧
        c.account = req.account.uuid ∧ (∀ kv ∈ c.data, kv.1 ∈ "name" :: "version" :: manifestAttributes) ∧
        out.location = "/" ++ req.account.login ++ "/images/" ++ job.image_uuid ∧
        out.body.id = job.image_uuid ∧ out.body.state = some "creating" := by
  obtain ⟨himg, h⟩ := guard_bind_eq_ok h
  obtain ⟨c, hc, h⟩ := bind_eq_ok h
  obtain ⟨job, hj, h⟩ := bind_eq_ok h
  cases h
  obtain ⟨_, _, _, -, -, -, rfl⟩ := createRequest_ok hc
  refine ⟨himg, _, job, hc, imgapiResult_eq_ok.1 hj, rfl, createRequest_keys hc, rfl, rfl, ?_⟩
  simp [translate, gated, showsManagement, createdImage, hurl, himg]

/-- whitelist に `*` がある設定で image を作る。`public` の param は IMGAPI に渡らない。 -/
theorem createImageFromMachine_ok_whitelisted :
    let config : BleedingEdge := ⟨some [("img_mgmt", true)], some [("*", true)]⟩
    let req : Request := ⟨"/T/images", "POST",
      [("account", "T"), ("machine", "m1"), ("name", "base"), ("version", "1.0.0"), ("public", "true")],
      "7.0.0", ⟨"t", "T"⟩⟩
    let call : CreateRequest → Except Err Job := fun _ => .ok ⟨"i1", "j1"⟩
    let out : Created := ⟨"j1", "/T/images/i1",
      translate req config none (createdImage [("name", "base"), ("version", "1.0.0")] ⟨"i1", "j1"⟩)⟩
    isDeprecatedEndpoint req.url = false ∧ Route.createImageFromMachine config call req none = .ok out ∧
      (imgMgmt config req.account.login = true ∧
        ∃ c job, createRequest req = .ok c ∧ call c = .ok job ∧
          c.account = req.account.uuid ∧ (∀ kv ∈ c.data, kv.1 ∈ "name" :: "version" :: manifestAttributes) ∧
          out.location = "/" ++ req.account.login ++ "/images/" ++ job.image_uuid ∧
          out.body.id = job.image_uuid ∧ out.body.state = some "creating") := by
  intro config req call out
  have hurl : isDeprecatedEndpoint req.url = false := by decide
  have h : Route.createImageFromMachine config call req none = .ok out := by decide
  exact ⟨hurl, h, createImageFromMachine_ok hurl h⟩

end Mgmt

/-! ## 先読みと合わせて -/

section Preloaded

variable {cat : Catalog} {req : Request} {be : BleedingEdge}

/-- `/machines` を含まない URL は、一つの machine のものでも machine 一覧でもない。 -/
theorem machines_gates (hm : includes req.url "/machines" = false) :
    includes req.url "/machines/" = false ∧ loadsDisabled req = false := by
  refine ⟨?_, by simp [loadsDisabled, hm]⟩
  cases hms : includes req.url "/machines/"
  · rfl
  · exact absurd (@hasInfix_of_append "/machines".toList ['/'] req.url.toList hms)
      (by simpa [includes] using hm)

/--
UUID で取るのでも machine の URL でもなく、image か dataset の URL なら、`load` は `T` に絞った
一覧から、6.5 なら `curImg65`、そうでなければ `curImg70` で選ぶ。
-/
theorem load_eq_select (hp : req.url ≠ "/--ping") (hu : req.imageUUID.any uuidRe = false)
    (hm : includes req.url "/machines" = false) (ht : touchesImages req.url = true) :
    load cat.imgapi req =
      if is65 req.version then curImg65 req (cat.images.filter (imagesQuery req).admits)
      else .ok (curImg70 req (cat.images.filter (imagesQuery req).admits)) := by
  obtain ⟨hms, hd⟩ := machines_gates hm
  simp only [load, loadCandidates, loadImages, loadDisabledImages, hp, hu, hms, ht, hd,
    Catalog.imgapi_listImages, List.append_nil, if_false, Bool.false_eq_true, Bool.not_true,
    ok_bind, pure_eq_ok]

/-- 一覧の endpoint の URL は machine のものでなく、image か dataset のものである。 -/
theorem listsImages_gates (h : listsImages req.url = true) :
    req.url ≠ "/--ping" ∧ includes req.url "/machines" = false ∧ touchesImages req.url = true := by
  simp only [listsImages, Bool.and_eq_true, Bool.not_eq_true'] at h
  obtain ⟨⟨hm, hi⟩, -⟩ := h
  refine ⟨fun hp => ?_, hm, ?_⟩
  · rw [hp] at hm hi; exact absurd hi (by decide)
  · simp only [touchesImages, Bool.or_eq_true] at hi ⊢
    tauto

/--
**6.5 でない client の一覧は、`T` に絞った IMGAPI の問い合わせへの答えを、並びのまま translate したもの。**
問い合わせは要求の検索条件（`name`・`os`・`version`・`public`・`state`・`owner`・`type`）を持ち、
`state` を指定しなければ active な image だけを返す。
-/
theorem list_after_load (hurl : listsImages req.url = true) (hu : req.imageUUID.any uuidRe = false)
    (h65 : is65 req.version = false) :
    let imgs := cat.images.filter (imagesQuery req).admits
    (load cat.imgapi req >>= Datasets.list req be) =
      .ok (imgs.map (translate req be (curImg70 req imgs).dataset)) := by
  obtain ⟨hp, hm, ht⟩ := listsImages_gates hurl
  rw [load_eq_select hp hu hm ht, if_neg (by simp [h65]), ok_bind]
  simp [Datasets.list, curImg70, h65]

/-- `os` で絞った一覧：別の os の image と、他の tenant の private な image は出ない。 -/
theorem list_after_load_by_os :
    let cat : Catalog := ⟨[], [
      { uuid := "a", os := some "smartos", «public» := some true, state := some "active" },
      { uuid := "b", os := some "linux", «public» := some true, state := some "active" },
      { uuid := "c", os := some "smartos", owner := some "u", «public» := some false,
        state := some "active" }]⟩
    let req : Request :=
      ⟨"/T/images?os=smartos", "GET", [("account", "T"), ("os", "smartos")], "7.0.0", ⟨"t", "T"⟩⟩
    let be : BleedingEdge := ⟨none, none⟩
    listsImages req.url = true ∧ req.imageUUID.any uuidRe = false ∧ is65 req.version = false ∧
      (let imgs := cat.images.filter (imagesQuery req).admits
       (load cat.imgapi req >>= Datasets.list req be) =
         .ok (imgs.map (translate req be (curImg70 req imgs).dataset))) := by
  intro cat req be
  exact ⟨by decide, by decide, by decide, list_after_load (by decide) (by decide) (by decide)⟩

/--
**6.5 の一覧は、候補（`dataset || image` に uuid・urn・name が一致する image、どちらも無ければ
`smartos` という名前の image）のうち、版の precedence が最大で並びで最初のものを `req.dataset` に
選び、`T` に絞った一覧を translate して `urn` の出るものだけを返す。** 候補が無ければ何も選ばない。
候補の版がどれも semver として valid で、数が安全な整数であることを前提とする
（valid でなければ `pickNewest_throws`）。
`default` は選んだ image と uuid の等しいものだけが真になる。
-/
theorem list_65_after_load (hurl : listsImages req.url = true) (hu : req.imageUUID.any uuidRe = false)
    (h65 : is65 req.version = true)
    (hv : ∀ d ∈ candidates65 req (cat.images.filter (imagesQuery req).admits),
      (Semver.valid d.version).any Semver.Version.safe) :
    let imgs := cat.images.filter (imagesQuery req).admits
    ∃ sel, (candidates65 req imgs = [] ∧ sel = none ∨
        ∃ m, sel = some m ∧ IsFirstMax (rank Image.version) (candidates65 req imgs) m) ∧
      (load cat.imgapi req >>= Datasets.list req be) =
        .ok ((imgs.map (translate req be sel)).filter (·.urn.isSome)) := by
  obtain ⟨hp, hm, ht⟩ := listsImages_gates hurl
  dsimp only
  rw [load_eq_select hp hu hm ht, if_pos h65]
  generalize cat.images.filter (imagesQuery req).admits = imgs at hv ⊢
  unfold curImg65
  dsimp only
  cases hc : candidates65 req imgs with
  | nil =>
    refine ⟨none, .inl ⟨rfl, rfl⟩, ?_⟩
    simp [Datasets.list, h65]
  | cons x xs =>
    rw [hc] at hv
    obtain ⟨m, hm', hfm⟩ := foldlM_newer_first_max Image.version xs [x] x
      (fun y hy => hv y (List.mem_cons_of_mem x hy)) (hv x (List.mem_cons_self x xs))
      (isFirstMax_singleton x)
    refine ⟨some m, .inr ⟨m, rfl, by simpa using hfm⟩, ?_⟩
    simp [pickNewest, hm', Datasets.list, h65]

/-- `smartos` が二つあれば、6.5 の一覧は版の新しい方を `default` にする。 -/
theorem list_65_after_load_smartos :
    let a : Image :=
      { uuid := "a", name := some "smartos", version := some "1.0.0",
        urn := some "sdc:sdc:smartos:1.0.0", «public» := some true, state := some "active" }
    let b : Image :=
      { uuid := "b", name := some "smartos", version := some "1.1.0",
        urn := some "sdc:sdc:smartos:1.1.0", «public» := some true, state := some "active" }
    let cat : Catalog := ⟨[], [a, b]⟩
    let req : Request := ⟨"/T/datasets", "GET", [("account", "T")], "6.5.0", ⟨"t", "T"⟩⟩
    let be : BleedingEdge := ⟨none, none⟩
    listsImages req.url = true ∧ req.imageUUID.any uuidRe = false ∧ is65 req.version = true ∧
      (∀ d ∈ candidates65 req (cat.images.filter (imagesQuery req).admits),
        (Semver.valid d.version).any Semver.Version.safe) ∧
      (let imgs := cat.images.filter (imagesQuery req).admits
       ∃ sel, (candidates65 req imgs = [] ∧ sel = none ∨
          ∃ m, sel = some m ∧ IsFirstMax (rank Image.version) (candidates65 req imgs) m) ∧
        (load cat.imgapi req >>= Datasets.list req be) =
          .ok ((imgs.map (translate req be sel)).filter (·.urn.isSome))) := by
  intro a b cat req be
  exact ⟨by decide, by decide, by decide, by decide,
    list_65_after_load (by decide) (by decide) (by decide) (by decide)⟩

/-- 一覧でない URL の問い合わせは、`state` を指定しない。 -/
theorem imagesQuery_state (h : listsImages req.url = false) : (imagesQuery req).state = none := by
  simp [imagesQuery, h]

/-- 一つの image の URL（`/images/` か `/datasets/` を含む）は、一覧の URL でも ping でもなく、image の URL である。 -/
theorem singleImage_gates
    (hurl : includes req.url "/images/" = true ∨ includes req.url "/datasets/" = true) :
    listsImages req.url = false ∧ req.url ≠ "/--ping" ∧ touchesImages req.url = true := by
  have hi : includes req.url "/images" = true ∨ includes req.url "/datasets" = true := by
    rcases hurl with h | h
    · exact .inl (@hasInfix_of_append "/images".toList ['/'] req.url.toList h)
    · exact .inr (@hasInfix_of_append "/datasets".toList ['/'] req.url.toList h)
  refine ⟨by rcases hurl with h | h <;> simp [listsImages, h],
    fun h => by rw [h] at hi; revert hi; decide, ?_⟩
  simp only [touchesImages, Bool.or_eq_true]
  tauto

/-- 一覧でない URL の候補は、どれも中身にあって destroyed でない：active か、machine 一覧の disabled。 -/
theorem loadCandidates_not_destroyed {s : ImageSel} {ds : List Image}
    (hq : (imagesQuery req).state = none) (hc : loadCandidates cat.imgapi req = .ok s)
    (hds : s.datasets = some ds) : ∀ d ∈ ds, d ∈ cat.images ∧ d.state ≠ some "destroyed" := by
  obtain ⟨imgs, dis, hi, hdis, hds'⟩ := loadCandidates_datasets hc
  rw [hds] at hds'
  cases hds'
  simp only [loadImages, Catalog.imgapi_listImages, Except.ok.injEq] at hi
  subst hi
  have hdis' : ∀ d ∈ dis, d ∈ cat.images ∧ d.state = some "disabled" := by
    unfold loadDisabledImages at hdis
    split at hdis <;> simp only [Catalog.imgapi_listImages, Except.ok.injEq] at hdis <;> subst hdis
    · intro d hd
      have hf := List.mem_filter.1 hd
      exact ⟨hf.1, stateAdmits_some (s := "disabled") (by decide) (ImgQuery.admits_state hf.2)⟩
    · simp
  intro d hd
  rcases List.mem_append.1 hd with hd | hd
  · have hf := List.mem_filter.1 hd
    have hs := ImgQuery.admits_state hf.2
    rw [hq] at hs
    exact ⟨hf.1, by rw [stateAdmits_none hs]; decide⟩
  · obtain ⟨h1, h2⟩ := hdis' d hd
    exact ⟨h1, by rw [h2]; decide⟩

/--
**一つの image を返す route（`/:account/images/:dataset` と `/:account/datasets/:dataset`）は、
destroyed な image を決して返さない。** UUID で取った image は `getImage` が確かめ、候補から選んだ
image は active か（machine 一覧なら）disabled である。返すのはその image の translate で、
`req.dataset` もその image である。
-/
theorem get_after_load_not_destroyed {v : ImageView}
    (hurl : includes req.url "/images/" = true ∨ includes req.url "/datasets/" = true)
    (h : (load cat.imgapi req >>= Datasets.get req be) = .ok v) :
    ∃ d ∈ cat.images, d.state ≠ some "destroyed" ∧ v = translate req be (some d) d := by
  obtain ⟨s, hl, hg⟩ := bind_eq_ok h
  obtain ⟨d, hsd, rfl⟩ : ∃ d, s.dataset = some d ∧ v = translate req be (some d) d := by
    unfold Datasets.get at hg
    split at hg
    · next d hd => exact ⟨d, hd, by rw [hd] at hg; exact (Except.ok.inj hg).symm⟩
    · cases hg
  refine ⟨d, ?_⟩
  rcases load_cases hl with rfl | ⟨-, hgi⟩ | ⟨-, -, -, -, hc⟩
  · cases hsd
  · obtain ⟨img, hli, hgi⟩ := bind_eq_ok hgi
    split at hgi
    · cases hgi
    · next hdes =>
      cases hgi
      cases hsd
      exact ⟨(Catalog.getImage_ok hli).1, hdes, rfl⟩
  · obtain ⟨imgs, dis, -, -, hds⟩ := loadCandidates_datasets hc
    obtain ⟨hmem, hdes⟩ :=
      loadCandidates_not_destroyed (imagesQuery_state (singleImage_gates hurl).1) hc hds d
      (load_selected hl _ d hds hsd).1
    exact ⟨hmem, hdes, rfl⟩

/-- UUID で指した active な image を返す。 -/
theorem get_after_load_not_destroyed_by_uuid :
    let img : Image :=
      { uuid := "0b7e9f3c-5d1a-4c6e-9a2b-7f8e1d2c3b4a", «public» := some true, state := some "active" }
    let cat : Catalog := ⟨[], [img]⟩
    let req : Request := ⟨"/T/images/0b7e9f3c-5d1a-4c6e-9a2b-7f8e1d2c3b4a", "GET",
      [("account", "T"), ("dataset", "0b7e9f3c-5d1a-4c6e-9a2b-7f8e1d2c3b4a")], "7.0.0", ⟨"t", "T"⟩⟩
    let be : BleedingEdge := ⟨none, none⟩
    (includes req.url "/images/" = true ∨ includes req.url "/datasets/" = true) ∧
      (load cat.imgapi req >>= Datasets.get req be) = .ok (translate req be (some img) img) ∧
      ∃ d ∈ cat.images, d.state ≠ some "destroyed" ∧
        translate req be (some img) img = translate req be (some d) d := by
  intro img cat req be
  have hurl : includes req.url "/images/" = true ∨ includes req.url "/datasets/" = true :=
    .inl (by decide)
  have h : (load cat.imgapi req >>= Datasets.get req be) = .ok (translate req be (some img) img) := by
    decide
  exact ⟨hurl, h, get_after_load_not_destroyed hurl h⟩

/-- 一覧でない URL の問い合わせが通すのは、`T` から見える active な image。 -/
theorem imagesQuery_admits (h : listsImages req.url = false) (d : Image) :
    (imagesQuery req).admits d = (d.visibleTo req.account.uuid && d.state == some "active") := by
  simp [imagesQuery, h, ImgQuery.admits, stateAdmits, fieldIs, typeIs]

/--
**6.5 でない client が UUID でない識別子（urn など）で一つの image を聞くと、`T` から見える active な
image のうち、uuid か urn がそれに等しい最初のものが返る。無ければ `<dataset> not found`。**
-/
theorem get_by_id {id : String}
    (hurl : includes req.url "/images/" = true ∨ includes req.url "/datasets/" = true)
    (hm : includes req.url "/machines" = false) (hid : req.imageUUID = some id)
    (hu : uuidRe id = false) (h65 : is65 req.version = false) :
    (load cat.imgapi req >>= Datasets.get req be) =
      match (cat.images.filter fun d =>
          d.visibleTo req.account.uuid && d.state == some "active").find? (matches70 id) with
      | some d => .ok (translate req be (some d) d)
      | none => .error (.notFound (((req.params.lookup "dataset").getD "undefined") ++ " not found")) := by
  obtain ⟨hq, hp, ht⟩ := singleImage_gates hurl
  have himgs : cat.images.filter (imagesQuery req).admits =
      cat.images.filter fun d => d.visibleTo req.account.uuid && d.state == some "active" :=
    List.filter_congr fun d _ => imagesQuery_admits hq d
  rw [load_eq_select hp (by simp [hid, hu]) hm ht, if_neg (by simp [h65]), ok_bind, himgs]
  simp only [Datasets.get, curImg70, hid, Option.some_bind]
  cases List.find? (matches70 id) _ <;> rfl

/-- 7.0 の client が urn で image を聞く。 -/
theorem get_by_id_urn :
    let img : Image :=
      { uuid := "i1", urn := some "sdc:sdc:base:1.0.0", «public» := some true, state := some "active" }
    let cat : Catalog := ⟨[], [img]⟩
    let req : Request := ⟨"/T/images/sdc:sdc:base:1.0.0", "GET",
      [("account", "T"), ("dataset", "sdc:sdc:base:1.0.0")], "7.0.0", ⟨"t", "T"⟩⟩
    let be : BleedingEdge := ⟨none, none⟩
    (includes req.url "/images/" = true ∨ includes req.url "/datasets/" = true) ∧
      includes req.url "/machines" = false ∧ req.imageUUID = some "sdc:sdc:base:1.0.0" ∧
      uuidRe "sdc:sdc:base:1.0.0" = false ∧ is65 req.version = false ∧
      (load cat.imgapi req >>= Datasets.get req be) =
        match (cat.images.filter fun d =>
            d.visibleTo req.account.uuid && d.state == some "active").find?
              (matches70 "sdc:sdc:base:1.0.0") with
        | some d => .ok (translate req be (some d) d)
        | none => .error (.notFound (((req.params.lookup "dataset").getD "undefined") ++ " not found")) := by
  intro img cat req be
  have hurl : includes req.url "/images/" = true ∨ includes req.url "/datasets/" = true :=
    .inl (by decide)
  exact ⟨hurl, by decide, by decide, by decide, by decide,
    @get_by_id cat req be "sdc:sdc:base:1.0.0" hurl (by decide) (by decide) (by decide) (by decide)⟩

end Preloaded

end CloudApi.Datasets
