import CloudApi.Backend
import CloudApi.Semver.Range

/-!
# image の translate（`datasets.translate`）

IMGAPI の image を公開の形にする。どの field を出すかは、endpoint、`X-Api-Version`、
bleeding edge の設定で決まる。

* 非推奨の `/:account/datasets` endpoint では `urn` を出し、新しい field は出さない。
* `semver.satisfies('6.5.0', v)`（`v` が `*` でないとき）なら `default` と `created`。
* `semver.satisfies('7.0.0', v)` なら `homepage` と `published_at`。
* `semver.satisfies('7.1.0', v)` か、`img_mgmt` の bleeding edge が有効で login が whitelist に
  あれば、さらに `owner`・`public`・`state`・`eula`・`acl`・`origin`・`error`。

## 示すこと

* `translate_eq_of_ungated` — 最後の組の門が閉じていれば、出力はその七つの field に依らない。
* `translate_shows_owner_to_constructor` — login が `constructor` なら、whitelist に無くても門が開く。
* `errorObjFromImgapiImage_congr` — `error` は `{code, message}` の形で、code は四つのどれか
  （`errorObjFromImgapiImage_code`）。元の code と、知っている code なら元の message だけで決まり、
  未知の code の message や、元の error の他の property は出ない。

whitelist は `JSON.parse` で作った object で、`whitelist[login]` は `Object.prototype` の
property にも当たる（`Js.JsObject.truthyAt`）。
-/

namespace CloudApi.Datasets

open Js Semver

/-- 設定の `bleeding_edge_features` と `bleeding_edge_login_whitelist`（`reqBleedingEdge` が要求に写す）。 -/
structure BleedingEdge where
  features : Option JsObject
  whitelist : Option JsObject
  deriving DecidableEq, Repr

/-- `req._bleedingEdgeFeatures && req._bleedingEdgeFeatures.img_mgmt && whitelist && (whitelist[login] || whitelist['*'])`。 -/
def imgMgmt (be : BleedingEdge) (login : String) : Bool :=
  match be.features, be.whitelist with
  | some f, some w => f.truthyAt "img_mgmt" && (w.truthyAt login || w.truthyAt "*")
  | _, _ => false

/-! ## 出力の形 -/

structure RequirementsView where
  password : Option String
  max_memory : Option Nat
  max_ram : Option Nat
  min_memory : Option Nat
  min_ram : Option Nat
  deriving DecidableEq, Repr

/-- `errorObjFromImgapiImage` の返す `{code, message}`。 -/
structure ErrorView where
  code : String
  message : Option String
  deriving DecidableEq, Repr

/-- `translate` の返す object。`none` はその key が無いこと。 -/
structure ImageView where
  id : String
  name : Option String
  version : Option String
  os : Option String
  requirements : RequirementsView
  type : Option String
  description : Option String
  urn : Option String
  «default» : Option Bool
  created : Option String
  tags : Option (FieldValue (List (String × String)))
  homepage : Option String
  published_at : Option String
  owner : Option String
  «public» : Option Bool
  state : Option String
  eula : Option String
  acl : Option (FieldValue (List String))
  origin : Option String
  error : Option ErrorView
  deriving DecidableEq, Repr

/-! ## `errorObjFromImgapiImage` -/

/-- 未知の code のときの message。 -/
def internalErrorMessage : String := "an unexpected error occurred (Contact support for assistance.)"

/-- `errorObjFromImgapiImage(image)`。`image.error` の code で分ける。 -/
def errorObjFromImgapiImage (error : ImgError) : ErrorView :=
  match error.code with
  | some "PrepareImageDidNotRun" => ⟨"PrepareImageDidNotRun", error.message⟩
  | some "VmHasNoOrigin" => ⟨"VmHasNoOrigin", error.message⟩
  | some "NotSupported" => ⟨"NotSupported", error.message⟩
  | _ => ⟨"InternalError", some internalErrorMessage⟩

/-- 出てよい code。 -/
def errorCodes : List String := ["PrepareImageDidNotRun", "VmHasNoOrigin", "NotSupported", "InternalError"]

/-- 知っている code（message をそのまま出すもの）。 -/
def knownErrorCode (code : Option String) : Bool :=
  code == some "PrepareImageDidNotRun" || code == some "VmHasNoOrigin" || code == some "NotSupported"

theorem errorObjFromImgapiImage_of_known {e : ImgError} (h : knownErrorCode e.code) :
    errorObjFromImgapiImage e = ⟨(e.code).getD "", e.message⟩ := by
  unfold errorObjFromImgapiImage
  split <;> simp_all [knownErrorCode]

theorem errorObjFromImgapiImage_of_unknown {e : ImgError} (h : knownErrorCode e.code = false) :
    errorObjFromImgapiImage e = ⟨"InternalError", some internalErrorMessage⟩ := by
  unfold errorObjFromImgapiImage
  split <;> simp_all [knownErrorCode]

theorem errorObjFromImgapiImage_code (e : ImgError) : (errorObjFromImgapiImage e).code ∈ errorCodes := by
  unfold errorObjFromImgapiImage
  split <;> simp [errorCodes]

/--
`error` の出力は、元の code と、知っている code なら元の message だけで決まる。元の error の
他の property は出ない。
-/
theorem errorObjFromImgapiImage_congr {e₁ e₂ : ImgError} (hc : e₁.code = e₂.code)
    (hm : knownErrorCode e₁.code → e₁.message = e₂.message) :
    errorObjFromImgapiImage e₁ = errorObjFromImgapiImage e₂ := by
  cases hk : knownErrorCode e₁.code with
  | true =>
    rw [errorObjFromImgapiImage_of_known hk, errorObjFromImgapiImage_of_known (hc ▸ hk), hc, hm hk]
  | false =>
    rw [errorObjFromImgapiImage_of_unknown hk, errorObjFromImgapiImage_of_unknown (hc ▸ hk)]

/-! ## `translate` -/

/-- `/^\/[^\/]+\/datasets/.test(req.url)`。 -/
def isDeprecatedEndpoint (url : String) : Bool :=
  match url.toList with
  | '/' :: rest =>
    let (seg, after) := rest.span (· != '/')
    !seg.isEmpty && "/datasets".toList.isPrefixOf after
  | _ => false

/-- `obj.requirements`。`max_ram`・`min_ram` は truthy なときだけ写す。 -/
def requirementsView : Option Requirements → RequirementsView
  | none => ⟨none, none, none, none, none⟩
  | some r =>
    let mx := r.max_ram.filter (· != 0)
    let mn := r.min_ram.filter (· != 0)
    ⟨r.password, mx, mx, mn, mn⟩

/-- `fields` に `homepage`・`published_at` が入るか。 -/
def showsPublished (req : Request) (be : BleedingEdge) : Bool :=
  !isDeprecatedEndpoint req.url &&
    (satisfies (release 7 0 0) req.version || satisfies (release 7 1 0) req.version ||
      imgMgmt be req.account.login)

/-- `fields` に `owner`・`public`・`state`・`eula`・`acl`・`origin`・`error` が入るか。 -/
def showsManagement (req : Request) (be : BleedingEdge) : Bool :=
  !isDeprecatedEndpoint req.url &&
    (satisfies (release 7 1 0) req.version || imgMgmt be req.account.login)

/-- 6.5 だけの field を出すか：`v !== '*' && semver.satisfies('6.5.0', v)`。 -/
def shows65 (v : String) : Bool := v != "*" && satisfies (release 6 5 0) v

/-- `fields` に入っていれば、`dataset` が持つ値を写す（`hasOwnProperty` が偽なら無し）。 -/
def gated {β : Type} (shown : Bool) (x : Option β) : Option β := if shown then x else none

/-- `translate(req, dataset)`。`selected` は `req.dataset`。 -/
def translate (req : Request) (be : BleedingEdge) (selected : Option Image) (dataset : Image) :
    ImageView :=
  let pub := showsPublished req be
  let mgmt := showsManagement req be
  { id := dataset.uuid
    name := dataset.name
    version := dataset.version
    os := dataset.os
    requirements := requirementsView dataset.requirements
    type := (dataset.type.filter (· != "")).map fun t =>
      if t == "zvol" then "virtualmachine" else "smartmachine"
    description := dataset.description.filter (· != "")
    urn := gated (isDeprecatedEndpoint req.url) (dataset.urn.filter (· != ""))
    «default» := gated (shows65 req.version) (some (selected.any (·.uuid == dataset.uuid)))
    created := gated (shows65 req.version) (dataset.published_at.filter (· != ""))
    tags := dataset.tags
    homepage := gated pub dataset.homepage
    published_at := gated pub dataset.published_at
    owner := gated mgmt dataset.owner
    «public» := gated mgmt dataset.public
    state := gated mgmt dataset.state
    eula := gated mgmt dataset.eula
    acl := gated mgmt dataset.acl
    origin := gated mgmt dataset.origin
    error := (gated mgmt dataset.error).map errorObjFromImgapiImage }

/-! ## 出力が依らない field -/

/-- 最後の組の七つの field を消した image。 -/
def withoutManagement (d : Image) : Image :=
  { d with owner := none, «public» := none, state := none, eula := none, acl := none,
           origin := none, error := none }

/-- **門が閉じていれば、出力は `owner`・`public`・`state`・`eula`・`acl`・`origin`・`error` に依らない。** -/
theorem translate_eq_of_ungated {req : Request} {be : BleedingEdge} {selected : Option Image}
    {d₁ d₂ : Image} (hd : withoutManagement d₁ = withoutManagement d₂)
    (hg : showsManagement req be = false) :
    translate req be selected d₁ = translate req be selected d₂ := by
  cases d₁; cases d₂
  simp only [withoutManagement, Image.mk.injEq] at hd
  obtain ⟨rfl, rfl, rfl, rfl, rfl, rfl, rfl, rfl, rfl, rfl, rfl, -⟩ := hd
  simp [translate, gated, hg]

/-- 非推奨の `/:account/datasets` では 7.1.0 でも門は閉じ、`owner` の違う image が同じに出る。 -/
theorem translate_eq_of_ungated_on_datasets :
    let req : Request := ⟨"/T/datasets", "GET", [("account", "T")], "7.1.0", ⟨"t", "T"⟩⟩
    let be : BleedingEdge := ⟨none, none⟩
    withoutManagement { uuid := "u", owner := some "alice" } =
        withoutManagement { uuid := "u", owner := some "bob" } ∧
      showsManagement req be = false ∧
      translate req be none { uuid := "u", owner := some "alice" } =
        translate req be none { uuid := "u", owner := some "bob" } := by
  intro req be
  have hd : withoutManagement { uuid := "u", owner := some "alice" } =
      withoutManagement { uuid := "u", owner := some "bob" } := rfl
  have hg : showsManagement req be = false := by decide
  exact ⟨hd, hg, translate_eq_of_ungated hd hg⟩

/--
login が `constructor` なら、whitelist に無くても `whitelist[login]` が `Object.prototype` の
property に当たって門が開き、`owner` だけが違う二つの image の出力が違う。
-/
theorem translate_shows_owner_to_constructor :
    let req : Request := ⟨"/constructor/images", "GET", [("account", "constructor")], "7.0.0",
      ⟨"c", "constructor"⟩⟩
    let be : BleedingEdge := ⟨some [("img_mgmt", true)], some [("admin", true)]⟩
    ([("admin", true)] : JsObject).lookup "constructor" = none ∧
      ([("admin", true)] : JsObject).lookup "*" = none ∧
      isDeprecatedEndpoint req.url = false ∧ satisfies (release 7 1 0) req.version = false ∧
      withoutManagement { uuid := "u", owner := some "alice" } =
        withoutManagement { uuid := "u", owner := some "bob" } ∧
      translate req be none { uuid := "u", owner := some "alice" } ≠
        translate req be none { uuid := "u", owner := some "bob" } := by
  decide

end CloudApi.Datasets
