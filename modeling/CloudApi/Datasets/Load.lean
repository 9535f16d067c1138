import CloudApi.Datasets.Translate
import CloudApi.Newest

/-!
# image の先読みと一覧（`datasets.load`・`datasets.list`）

`load` は要求ごとに一度走り、`req.dataset`（選んだ image）と `req.datasets`（候補）を決める。

* `req.params.image || req.params.dataset` が UUID の形なら、その一つだけを `getImage` で取る。
  IMGAPI には account を渡さない（source の注記：前に使えた disabled な image も読めるように）。
* URL に `/machines/` があれば何もしない。`/datasets`・`/machines`・`/images` のどれも無ければ何もしない。
* それ以外は `T` から見える active な image を読み、machine 一覧なら誰のものでも disabled な
  image を足し、6.5 なら `curImg65`、そうでなければ `curImg70` で一つ選ぶ。

`list` は `req.datasets` を translate して返す。6.5 の client には `urn` の無いものを落とす。

`req.url` は query string を含み、`req.params` は query の値も持つ。

## 示すこと

* `load_cases` — `load` の答えは三通り（何も読まない、UUID で一つ取る、候補を読む）。
* `load_selected` — 選ばれた image は候補の一つで、版に応じた選び方に合う。
* `load_congr` — UUID での取得でも machine 一覧でもなければ、`load` は `T` に絞った一覧にしか依らない。
* `list_65` — 6.5 の一覧に残るのは `urn` の出る image だけで、`/:account/images` では何も残らない。
* query の値の `/machines/` で候補が読まれず、`list` が投げる。
-/

namespace CloudApi.Datasets

open Js

/-- `req.dataset` と `req.datasets`。`false` と未設定はどちらも `none`。 -/
structure ImageSel where
  dataset : Option Image := none
  datasets : Option (List Image) := none
  deriving DecidableEq, Repr

/-! ## 一つだけ取る -/

/-- `loadImage`：`req.params.dataset || req.params.image` を、account を付けずに取る。 -/
def loadImage (imgapi : Imgapi) (req : Request) : Except Err Image :=
  imgapi.getImage ((req.arg "dataset" <|> req.arg "image").getD "undefined")

/-- `getImage`：destroyed な image は見せない。 -/
def getImage (imgapi : Imgapi) (req : Request) : Except Err ImageSel := do
  let img ← loadImage imgapi req
  if img.state = some "destroyed" then throw (.notFound (img.uuid ++ " not found"))
  else pure { dataset := some img }

/-! ## 候補を読む -/

/-- 一覧の endpoint か：URL に `/images` か `/datasets` があり、その後に `/` が続かず、machine のものでない。 -/
def listsImages (url : String) : Bool :=
  !includes url "/machines" && (includes url "/images" || includes url "/datasets") &&
    !(includes url "/images/" || includes url "/datasets/")

/--
`{'smartmachine': 'zone-dataset', 'virtualmachine': 'zvol'}[req.params.type]`。object literal の
property を引くので、`constructor` や `toString` では `Object.prototype` の property に当たる。
-/
def imageType (t : String) : JsProp String :=
  JsProp.get [("smartmachine", "zone-dataset"), ("virtualmachine", "zvol")] t

example : imageType "virtualmachine" = .own "zvol" := by decide
example : imageType "toString" = .inherited "toString" := by decide

/-- `loadImages` の `opts`：いつも account、一覧の endpoint なら検索の filter も。 -/
def imagesQuery (req : Request) : ImgQuery :=
  if listsImages req.url then
    { account := some req.account.uuid, name := req.arg "name", os := req.arg "os",
      version := req.arg "version", «public» := req.arg "public", state := req.arg "state",
      owner := req.arg "owner", type := (req.arg "type").map imageType }
  else { account := some req.account.uuid }

def loadImages (imgapi : Imgapi) (req : Request) : Except Err (List Image) :=
  imgapi.listImages (imagesQuery req)

/-- machine 一覧か：URL に `/machines` があって `/machines/` が無く、POST でない。 -/
def loadsDisabled (req : Request) : Bool :=
  includes req.url "/machines" && !includes req.url "/machines/" && toUpperCase req.method != "POST"

/-- `loadDisabledImages`：machine 一覧のときだけ、disabled な image を account を付けずに読む。 -/
def loadDisabledImages (imgapi : Imgapi) (req : Request) : Except Err (List Image) :=
  if loadsDisabled req then imgapi.listImages { state := some "disabled" } else .ok []

/-! ## 一つ選ぶ -/

/-- `curImg65` の候補：`dataset || image` に uuid・urn・name が一致するもの、無ければ `smartos`。 -/
def candidates65 (req : Request) (datasets : List Image) : List Image :=
  match req.arg "dataset" <|> req.arg "image" with
  | some d => datasets.filter fun x => x.uuid == d || x.urn == some d || x.name == some d
  | none => datasets.filter (·.name == some "smartos")

/-- `curImg65`：候補のうち一番新しい版のもの。 -/
def curImg65 (req : Request) (datasets : List Image) : Except Err ImageSel :=
  let dataset := candidates65 req datasets
  if dataset.isEmpty then pure { datasets := some datasets }
  else do pure { dataset := some (← pickNewest Image.version dataset), datasets := some datasets }

/-- `curImg70` の一致：uuid か urn が `image || dataset` に等しい。 -/
def matches70 (id : String) (d : Image) : Bool := d.uuid == id || d.urn == some id

/-- `curImg70`：並びで最初に一致したもの。 -/
def curImg70 (req : Request) (datasets : List Image) : ImageSel :=
  { dataset := req.imageUUID.bind fun id => datasets.find? (matches70 id),
    datasets := some datasets }

/-- `/\/(datasets|machines|images)/.test(req.url)`。 -/
def touchesImages (url : String) : Bool :=
  includes url "/datasets" || includes url "/machines" || includes url "/images"

/-- 候補を読んで一つ選ぶ（`loadImages` 以降の callback）。 -/
def loadCandidates (imgapi : Imgapi) (req : Request) : Except Err ImageSel := do
  let datasets ← loadImages imgapi req
  let imgs ← loadDisabledImages imgapi req
  let all := datasets ++ imgs
  if is65 req.version then curImg65 req all else pure (curImg70 req all)

/-- `load(req, res, next)`。 -/
def load (imgapi : Imgapi) (req : Request) : Except Err ImageSel :=
  if req.url = "/--ping" then .ok {}
  else if req.imageUUID.any uuidRe then getImage imgapi req
  else if includes req.url "/machines/" then .ok {}
  else if !touchesImages req.url then .ok {}
  else loadCandidates imgapi req

/-! ## 一覧 -/

/-- `list(req, res, next)`。`req.datasets` が無ければ `forEach` で投げる。 -/
def list (req : Request) (be : BleedingEdge) (sel : ImageSel) : Except Err (List ImageView) :=
  match sel.datasets with
  | none => throw (.typeError "Cannot call method 'forEach' of undefined")
  | some ds =>
    let datasets := ds.map (translate req be sel.dataset)
    pure (if is65 req.version then datasets.filter (·.urn.isSome) else datasets)

/-! ## 選ばれた image -/

/-- 6.5 の選び方：`dataset || image` に uuid・urn・name のどれかが等しいか、無ければ名前が `smartos`。 -/
def Matches65 (req : Request) (d : Image) : Prop :=
  match req.arg "dataset" <|> req.arg "image" with
  | some x => d.uuid = x ∨ d.urn = some x ∨ d.name = some x
  | none => d.name = some "smartos"

/-- 候補が読まれて image が選ばれていれば、それは候補の一つで、版に応じた選び方に合う。 -/
def ImageSelected (req : Request) (s : ImageSel) : Prop :=
  ∀ ds d, s.datasets = some ds → s.dataset = some d → d ∈ ds ∧
    if is65 req.version then Matches65 req d
    else ∃ id, req.imageUUID = some id ∧ ds.find? (matches70 id) = some d

theorem mem_candidates65 {req : Request} {all : List Image} {d : Image}
    (h : d ∈ candidates65 req all) : d ∈ all ∧ Matches65 req d := by
  unfold candidates65 at h
  unfold Matches65
  cases hx : (req.arg "dataset" <|> req.arg "image") with
  | none => simp only [hx, List.mem_filter, beq_iff_eq] at h; exact h
  | some x =>
    simp only [hx, List.mem_filter, Bool.or_eq_true, beq_iff_eq] at h
    exact ⟨h.1, by simpa [or_assoc] using h.2⟩

theorem curImg65_selected {req : Request} {all : List Image} {s : ImageSel}
    (h : curImg65 req all = .ok s) :
    s.datasets = some all ∧ ∀ d, s.dataset = some d → d ∈ all ∧ Matches65 req d := by
  dsimp only [curImg65] at h
  split at h
  · cases h; simp
  · obtain ⟨d, hd, h⟩ := bind_eq_ok h
    cases h
    exact ⟨rfl, fun d' hd' => by cases hd'; exact mem_candidates65 (pickNewest_mem _ hd)⟩

theorem curImg70_selected (req : Request) (all : List Image) (d : Image)
    (hd : (curImg70 req all).dataset = some d) :
    d ∈ all ∧ ∃ id, req.imageUUID = some id ∧ all.find? (matches70 id) = some d := by
  simp only [curImg70, Option.bind_eq_some] at hd
  obtain ⟨id, hid, hf⟩ := hd
  exact ⟨List.mem_of_find?_eq_some hf, id, hid, hf⟩

/-! ## `load` の場合分け -/

section Load

variable {imgapi : Imgapi} {req : Request} {s : ImageSel}

/-- `getImage` は候補を読まない。 -/
theorem getImage_datasets (h : getImage imgapi req = .ok s) : s.datasets = none := by
  obtain ⟨img, -, h⟩ := bind_eq_ok h
  split at h
  · cases h
  · cases h; rfl

theorem loadCandidates_ok (h : loadCandidates imgapi req = .ok s) :
    ∃ imgs dis, loadImages imgapi req = .ok imgs ∧ loadDisabledImages imgapi req = .ok dis ∧
      if is65 req.version then curImg65 req (imgs ++ dis) = .ok s
      else s = curImg70 req (imgs ++ dis) := by
  obtain ⟨imgs, hi, h⟩ := bind_eq_ok h
  obtain ⟨dis, hd, h⟩ := bind_eq_ok h
  refine ⟨imgs, dis, hi, hd, ?_⟩
  split <;> simp_all

/-- **`load` の答えは三通り：何も読まない、UUID で一つ取る、四つの門を抜けて候補を読む。** -/
theorem load_cases (h : load imgapi req = .ok s) :
    s = {} ∨ (req.imageUUID.any uuidRe = true ∧ getImage imgapi req = .ok s) ∨
      (req.url ≠ "/--ping" ∧ req.imageUUID.any uuidRe = false ∧
        includes req.url "/machines/" = false ∧ touchesImages req.url = true ∧
        loadCandidates imgapi req = .ok s) := by
  unfold load at h
  by_cases hp : req.url = "/--ping"
  · rw [if_pos hp] at h; exact .inl (Except.ok.inj h).symm
  rw [if_neg hp] at h
  cases hu : req.imageUUID.any uuidRe
  · rw [if_neg (by simp [hu])] at h
    cases hm : includes req.url "/machines/"
    · rw [if_neg (by simp [hm])] at h
      cases ht : touchesImages req.url
      · rw [if_pos (by simp [ht])] at h; exact .inl (Except.ok.inj h).symm
      · rw [if_neg (by simp [ht])] at h; exact .inr (.inr ⟨hp, rfl, rfl, rfl, h⟩)
    · rw [if_pos hm] at h; exact .inl (Except.ok.inj h).symm
  · rw [if_pos hu] at h; exact .inr (.inl ⟨rfl, h⟩)

/-- `loadCandidates` の候補は、`T` の一覧と disabled な image をつないだもの。 -/
theorem loadCandidates_datasets (h : loadCandidates imgapi req = .ok s) :
    ∃ imgs dis, loadImages imgapi req = .ok imgs ∧ loadDisabledImages imgapi req = .ok dis ∧
      s.datasets = some (imgs ++ dis) := by
  obtain ⟨imgs, dis, hi, hd, hsel⟩ := loadCandidates_ok h
  refine ⟨imgs, dis, hi, hd, ?_⟩
  split at hsel
  · exact (curImg65_selected hsel).1
  · rw [hsel]; rfl

/-- **`load` が選んだ image は候補の一つで、版に応じた選び方に合う。** -/
theorem load_selected (h : load imgapi req = .ok s) : ImageSelected req s := by
  intro ds d hds hd
  rcases load_cases h with rfl | ⟨-, hg⟩ | ⟨-, -, -, -, hc⟩
  · cases hds
  · rw [getImage_datasets hg] at hds; cases hds
  obtain ⟨imgs, dis, -, -, hsel⟩ := loadCandidates_ok hc
  split at hsel
  · next h65 =>
    obtain ⟨hall, hmem⟩ := curImg65_selected hsel
    rw [hall] at hds; cases hds
    simpa [h65] using hmem d hd
  · next h65 =>
    subst hsel
    cases hds
    simpa [h65] using curImg70_selected req _ d hd

/-- UUID での取得は候補を読まない。 -/
theorem load_byUuid (h : load imgapi req = .ok s) (hu : req.imageUUID.any uuidRe = true) : s.datasets = none := by
  rcases load_cases h with rfl | ⟨-, hg⟩ | ⟨-, hu', -⟩
  · rfl
  · exact getImage_datasets hg
  · rw [hu] at hu'; cases hu'

/-- UUID での取得でも machine 一覧でもなければ、選ばれた image は `T` に絞った一覧の一つ。 -/
theorem load_dataset_listed (h : load imgapi req = .ok s) (hu : req.imageUUID.any uuidRe = false)
    (hd : loadsDisabled req = false) {d : Image} (hs : s.dataset = some d) :
    ∃ imgs, imgapi.listImages (imagesQuery req) = .ok imgs ∧ d ∈ imgs := by
  rcases load_cases h with rfl | ⟨hu', -⟩ | ⟨-, -, -, -, hc⟩
  · cases hs
  · rw [hu] at hu'; cases hu'
  obtain ⟨imgs, dis, hi, hdis, hds⟩ := loadCandidates_datasets hc
  rw [loadDisabledImages, hd, if_neg Bool.false_ne_true] at hdis
  cases hdis
  exact ⟨imgs, hi, by simpa using (load_selected h _ _ hds hs).1⟩

end Load

/-! ## backend を替えても同じ答え -/

theorem imagesQuery_account (req : Request) : (imagesQuery req).account = some req.account.uuid := by
  unfold imagesQuery; split <;> rfl

/--
**UUID での取得でも machine 一覧でもなければ、`load` が backend に聞くのは `T` に絞った一覧だけ。**
その答えが等しい二つの backend では、`load` の答えも等しい。
-/
theorem load_congr {imgapi₁ imgapi₂ : Imgapi} {req : Request}
    (hq : ∀ q : ImgQuery, q.account = some req.account.uuid →
      imgapi₁.listImages q = imgapi₂.listImages q)
    (hu : req.imageUUID.any uuidRe = false) (hd : loadsDisabled req = false) :
    load imgapi₁ req = load imgapi₂ req := by
  have hc : loadCandidates imgapi₁ req = loadCandidates imgapi₂ req := by
    simp only [loadCandidates, loadImages, loadDisabledImages, hd, Bool.false_eq_true, if_false,
      hq _ (imagesQuery_account req)]
  simp only [load, hu, hc, Bool.false_eq_true, if_false]

/-! ## 6.5 の一覧 -/

/--
**6.5 の一覧で残るのは、`urn` の出る image だけ。** `urn` は非推奨の `/:account/datasets`
endpoint でしか出ないので、`/:account/images` では何も残らない。
-/
theorem list_65 {req : Request} {be : BleedingEdge} {sel : Option Image} {ds : List Image}
    (h65 : is65 req.version = true) :
    list req be ⟨sel, some ds⟩ =
      .ok (if isDeprecatedEndpoint req.url
        then (ds.filter fun d => (d.urn.filter (· != "")).isSome).map (translate req be sel)
        else []) := by
  simp only [list, h65, if_true, pure_eq_ok, Except.ok.injEq, List.filter_map]
  split
  · next hd => exact congrArg _ (List.filter_congr fun d _ => by simp [translate, gated, hd])
  · next hd => simp [translate, gated, hd]

/-- 6.5 の `/:account/datasets` の一覧では、`urn` の無い image だけが落ちる。 -/
theorem list_65_datasets_keeps_urn :
    let req : Request := ⟨"/T/datasets", "GET", [("account", "T")], "6.5.0", ⟨"t", "T"⟩⟩
    let ds : List Image := [{ uuid := "a", urn := some "sdc:sdc:base:1.0.0" }, { uuid := "b" }]
    is65 req.version = true ∧
      list req ⟨none, none⟩ ⟨none, some ds⟩ =
        .ok (if isDeprecatedEndpoint req.url
          then (ds.filter fun d => (d.urn.filter (· != "")).isSome).map (translate req ⟨none, none⟩ none)
          else []) :=
  ⟨by decide, list_65 (by decide)⟩

/--
`/:account/images` を `>=6.5.0` で一覧すると、`urn` のある image も落ちる。`urn` は非推奨の
endpoint でしか出ないからである。
-/
theorem list_65_images_drops_urn :
    list ⟨"/T/images", "GET", [("account", "T")], ">=6.5.0", ⟨"t", "T"⟩⟩ ⟨none, none⟩
      ⟨none, some [{ uuid := "u", urn := some "sdc:sdc:base:1.0.0" }]⟩ = .ok [] := by
  decide

/-! ## 一覧の要求で候補が読まれないとき -/

/-- query の値の `/machines/` で `load` は候補を読まずに終わり、`list` が `forEach` で投げる。 -/
theorem list_throws_on_machines_query (imgapi : Imgapi) (be : BleedingEdge) :
    let req : Request :=
      ⟨"/T/datasets?name=/machines/", "GET", [("account", "T"), ("name", "/machines/")], "*",
        ⟨"t", "T"⟩⟩
    load imgapi req = .ok {} ∧
      list req be {} = .error (.typeError "Cannot call method 'forEach' of undefined") := by
  intro req
  exact ⟨by rw [load, if_neg (by decide), if_neg (by decide), if_pos (by decide)], rfl⟩

end CloudApi.Datasets
