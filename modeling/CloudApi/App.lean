import CloudApi.Datasets.Load
import CloudApi.Packages

/-!
# 要求の先読み（`app.js` の handler の並び）

`app.js` は認証の後、どの route にも次の順で handler を置く。

    server.use(datasets.load);
    server.use(packages.loadPackages);
    ...
    server.use(function sendZeroContentLengthon65(req, res, next) { ... });

`preload` は前の二つを続けたもの。どちらかが `next(err)` に渡せば、そこで止まる。

## 示すこと

* `preload_selected` — 選ばれた image と package は、読まれた候補の一つで、選び方に合う。
  UUID で取ったものには候補が無い。
* `preload_isolated` — `T` から見える部分の等しい二つの backend では、`req.pkg` はいつも等しい。
  `req.dataset` は、UUID での取得でも machine 一覧でもなければ等しく、`T` から見える。
  この二つの道では source が意図して account を付けない（`loadImage` の注記と `loadDisabledImages`）。
* 6.5 の client の判定は二通りある。`is65`（`/6\.5/`）と `Datasets.shows65`（`semver.satisfies`）は
  `6.x` で食い違う。
-/

namespace CloudApi

open Js Datasets

/-- 先読みの後の `req`：`load` の決めた `req.dataset`・`req.datasets` と、`loadPackages` の決めた
`req.pkg`・`req.packages`。 -/
structure Preloaded where
  images : ImageSel
  pkgs : Packages.PkgSel
  deriving DecidableEq, Repr

/-- `datasets.load` の後に `packages.loadPackages`。 -/
def preload (papi : Papi) (imgapi : Imgapi) (req : Request) : Except Err Preloaded := do
  let images ← load imgapi req
  let pkgs ← Packages.loadPackages papi req
  pure ⟨images, pkgs⟩

/-- `req.dataset` と `req.pkg`。 -/
def Preloaded.selected (p : Preloaded) : Option Image × Option Pkg := (p.images.dataset, p.pkgs.pkg)

/-- `sendZeroContentLengthon65`：6.5 の client への HEAD の応答を `Content-Length: 0` にするか。 -/
def sendZeroContentLengthon65 (req : Request) : Bool := req.method == "HEAD" && is65 req.version

section Preload

variable {papi : Papi} {imgapi : Imgapi} {req : Request} {p : Preloaded}

theorem preload_ok (h : preload papi imgapi req = .ok p) :
    load imgapi req = .ok p.images ∧ Packages.loadPackages papi req = .ok p.pkgs := by
  obtain ⟨images, hi, h⟩ := bind_eq_ok h
  obtain ⟨pkgs, hp, h⟩ := bind_eq_ok h
  cases h
  exact ⟨hi, hp⟩

/-- 選ばれたものは、`load` の答えと、`loadPackages` の `req.pkg` だけで決まる。 -/
theorem preload_selected_eq (papi : Papi) (imgapi : Imgapi) (req : Request) :
    (preload papi imgapi req).map Preloaded.selected =
      load imgapi req >>= fun s =>
        ((Packages.loadPackages papi req).map (·.pkg)).map (Prod.mk s.dataset) := by
  unfold preload
  cases load imgapi req <;> cases Packages.loadPackages papi req <;> rfl

/-! ## 選ばれたもの -/

/--
**先読みが成功すれば、選ばれた image と package は読まれた候補の一つで、選び方に合う。**
UUID で取ったものには候補が無い。
-/
theorem preload_selected (h : preload papi imgapi req = .ok p) :
    ImageSelected req p.images ∧ Packages.PkgSelected p.pkgs ∧
      (req.imageUUID.any uuidRe = true → p.images.datasets = none) ∧
      (∀ name, req.arg "package" = some name → uuidRe name = true → p.pkgs.packages = none) :=
  have ⟨hl, hp⟩ := preload_ok h
  ⟨load_selected hl, Packages.loadPackages_selected hp, load_byUuid hl,
    fun _ hn hu => Packages.loadPackages_byUuid hn hu hp⟩

end Preload

/-- `urn` で指した image を、6.5 の `dataset` param で選ぶ先読み。 -/
theorem preload_selected_by_urn :
    let a : Image :=
      { uuid := "i1", urn := some "sdc:sdc:base:1.0.0", version := some "1.0.0",
        «public» := some true, state := some "active" }
    let cat : Catalog := ⟨[], [a]⟩
    let req : Request := ⟨"/T/datasets/sdc:sdc:base:1.0.0", "GET",
      [("account", "T"), ("dataset", "sdc:sdc:base:1.0.0")], "6.5.0", ⟨"t", "T"⟩⟩
    let p : Preloaded := ⟨{ dataset := some a, datasets := some [a] }, {}⟩
    preload cat.papi cat.imgapi req = .ok p ∧
      (ImageSelected req p.images ∧ Packages.PkgSelected p.pkgs ∧
        (req.imageUUID.any uuidRe = true → p.images.datasets = none) ∧
        (∀ name, req.arg "package" = some name → uuidRe name = true → p.pkgs.packages = none)) := by
  intro a cat req p
  have h : preload cat.papi cat.imgapi req = .ok p := by decide
  exact ⟨h, preload_selected h⟩

/--
`dataset` と `image` の両方の param があると、6.5 は `dataset` の、それ以外は `image` の値で選ぶ。
`load` の識別子 `image || dataset` に、6.5 で選ばれた image の uuid・urn・name はどれも一致しない。
-/
theorem preload_65_selects_dataset_param :
    let a : Image :=
      { uuid := "i1", urn := some "sdc:sdc:base:1.0.0", version := some "1.0.0",
        «public» := some true, state := some "active" }
    let b : Image :=
      { uuid := "i2", urn := some "sdc:sdc:smartos:2.0.0", version := some "2.0.0",
        «public» := some true, state := some "active" }
    let cat : Catalog := ⟨[], [a, b]⟩
    let req (v : String) : Request := ⟨"/T/datasets/sdc:sdc:base:1.0.0?image=sdc:sdc:smartos:2.0.0",
      "GET", [("account", "T"), ("dataset", "sdc:sdc:base:1.0.0"), ("image", "sdc:sdc:smartos:2.0.0")],
      v, ⟨"t", "T"⟩⟩
    (req "6.5.0").imageUUID = some "sdc:sdc:smartos:2.0.0" ∧
      (preload cat.papi cat.imgapi (req "6.5.0")).map (·.images.dataset) = .ok (some a) ∧
      ¬ (a.uuid = "sdc:sdc:smartos:2.0.0" ∨ a.urn = some "sdc:sdc:smartos:2.0.0" ∨
        a.name = some "sdc:sdc:smartos:2.0.0") ∧
      (preload cat.papi cat.imgapi (req "7.0.0")).map (·.images.dataset) = .ok (some b) := by
  intro a b cat req
  exact ⟨rfl, by decide, by decide, by decide⟩

/-! ## tenant の間の独立性 -/

/--
**`T` から見える部分の等しい二つの backend では、`req.pkg` はいつも等しい。**
UUID での取得でも machine 一覧でもなければ、先読みは両方とも同じ失敗で終わるか、
同じ `req.dataset` と `req.pkg` を選び、選ばれた image は `T` から見える。
-/
theorem preload_isolated {cat₁ cat₂ : Catalog} {req : Request}
    (h : cat₁.visibleTo req.account.uuid = cat₂.visibleTo req.account.uuid) :
    (Packages.loadPackages cat₁.papi req).map (·.pkg) =
        (Packages.loadPackages cat₂.papi req).map (·.pkg) ∧
      (req.imageUUID.any uuidRe = false → loadsDisabled req = false →
        (preload cat₁.papi cat₁.imgapi req).map Preloaded.selected =
            (preload cat₂.papi cat₂.imgapi req).map Preloaded.selected ∧
          ∀ p d, preload cat₁.papi cat₁.imgapi req = .ok p → p.images.dataset = some d →
            d.visibleTo req.account.uuid) := by
  have hpkg := Packages.loadPackages_pkg_congr (papi_congr h).1 (papi_congr h).2 rfl
  refine ⟨hpkg, fun hu hd => ⟨?_, fun p d hp hs => ?_⟩⟩
  · rw [preload_selected_eq, preload_selected_eq, hpkg,
      load_congr (fun _ hq => imgapi_list_congr h hq) hu hd]
  · obtain ⟨imgs, hi, hm⟩ := load_dataset_listed (preload_ok hp).1 hu hd hs
    exact imgapi_list_visible (imagesQuery_account req) hi d hm

/-- 他の tenant の private な image がある backend と無い backend で、一覧を先読みする。 -/
theorem preload_isolated_listing :
    let cat₁ : Catalog :=
      ⟨[], [{ uuid := "i1", owner := some "u", «public» := some false, state := some "active" }]⟩
    let cat₂ : Catalog := ⟨[], []⟩
    let req : Request := ⟨"/T/images", "GET", [("account", "T")], "7.0.0", ⟨"t", "T"⟩⟩
    cat₁.visibleTo req.account.uuid = cat₂.visibleTo req.account.uuid ∧
      ((Packages.loadPackages cat₁.papi req).map (·.pkg) =
          (Packages.loadPackages cat₂.papi req).map (·.pkg) ∧
        (req.imageUUID.any uuidRe = false → loadsDisabled req = false →
          (preload cat₁.papi cat₁.imgapi req).map Preloaded.selected =
              (preload cat₂.papi cat₂.imgapi req).map Preloaded.selected ∧
            ∀ p d, preload cat₁.papi cat₁.imgapi req = .ok p → p.images.dataset = some d →
              d.visibleTo req.account.uuid)) := by
  intro cat₁ cat₂ req
  have h : cat₁.visibleTo req.account.uuid = cat₂.visibleTo req.account.uuid := rfl
  exact ⟨h, preload_isolated h⟩

/--
他の tenant の private な image も、UUID で指せば `req.dataset` になる。その image が無い backend
では同じ要求が失敗する。
-/
theorem preload_selects_private_image_by_uuid :
    let img : Image :=
      { uuid := "0b7e9f3c-5d1a-4c6e-9a2b-7f8e1d2c3b4a", owner := some "u", «public» := some false,
        state := some "active" }
    let cat₁ : Catalog := ⟨[], [img]⟩
    let cat₂ : Catalog := ⟨[], []⟩
    let req : Request := ⟨"/T/images/0b7e9f3c-5d1a-4c6e-9a2b-7f8e1d2c3b4a", "GET",
      [("account", "T"), ("dataset", "0b7e9f3c-5d1a-4c6e-9a2b-7f8e1d2c3b4a")], "7.0.0", ⟨"t", "T"⟩⟩
    cat₁.visibleTo req.account.uuid = cat₂.visibleTo req.account.uuid ∧
      img.visibleTo req.account.uuid = false ∧
      preload cat₁.papi cat₁.imgapi req = .ok ⟨{ dataset := some img }, {}⟩ ∧
      preload cat₂.papi cat₂.imgapi req = .error (.backend "ResourceNotFound") := by
  intro img cat₁ cat₂ req
  exact ⟨rfl, rfl, by decide, by decide⟩

/--
machine 一覧では誰のものでも disabled な image が候補に入るので、`?image=<urn>` で他の tenant の
disabled な image が `req.dataset` になる。見える部分の等しい、その image の無い backend では
何も選ばれない。
-/
theorem preload_selects_disabled_image_on_listing :
    let img : Image :=
      { uuid := "i9", urn := some "sdc:u:private:1.0.0", owner := some "u", «public» := some false,
        state := some "disabled" }
    let cat₁ : Catalog := ⟨[], [img]⟩
    let cat₂ : Catalog := ⟨[], []⟩
    let req : Request := ⟨"/T/machines?image=sdc:u:private:1.0.0", "GET",
      [("account", "T"), ("image", "sdc:u:private:1.0.0")], "7.0.0", ⟨"t", "T"⟩⟩
    cat₁.visibleTo req.account.uuid = cat₂.visibleTo req.account.uuid ∧
      img.visibleTo req.account.uuid = false ∧
      (preload cat₁.papi cat₁.imgapi req).map Preloaded.selected = .ok (some img, none) ∧
      (preload cat₂.papi cat₂.imgapi req).map Preloaded.selected = .ok (none, none) := by
  intro img cat₁ cat₂ req
  exact ⟨rfl, rfl, by decide, by decide⟩

/-! ## 6.5 の client の判定 -/

/--
`X-Api-Version: 6.x` の client は、`is65` では 6.5 でなく、`shows65` では 6.5 である。
package は新しい形（`id` つき）で返り、image は 6.5 だけの `default` つきで返り、
HEAD の `Content-Length` は 0 にならない。
-/
theorem legacy_tests_disagree_on_6x (pkg : Pkg) (be : BleedingEdge) (sel : Option Image)
    (d : Image) :
    let req : Request := ⟨"/T/datasets", "HEAD", [("account", "T")], "6.x", ⟨"t", "T"⟩⟩
    is65 req.version = false ∧ shows65 req.version = true ∧
      (Packages.translate req pkg).id = some pkg.uuid ∧
      (Datasets.translate req be sel d).default.isSome ∧ sendZeroContentLengthon65 req = false := by
  intro req
  have h65 : is65 req.version = false := by decide
  have hs : shows65 req.version = true := by decide
  simp [Packages.translate, Datasets.translate, gated, sendZeroContentLengthon65, h65, hs]

end CloudApi
