import CloudApi.Backend
import CloudApi.Newest

/-!
# package（`lib/packages.js`）

* `translate` — 版に応じて package を公開の形にする。6.5 の client には `id`・`version`・
  `description`・`group` を出さない。
* `loadPackages` — 要求ごとに一度走り、`req.pkg`（選んだ package）と `req.packages`（候補）を決める。
  UUID での取得、名前での選択、machine 一覧のための全件、resize のための default の選択。
* `list` の filter と cache key。cache の振る舞いは `PackageCache` で扱う。

`loadPackages` の名前での選択と default の選択は、source ではそれぞれ `papi.list` の
callback の中にある。ここではそれぞれ `loadByName`・`loadDefault` として取り出す。

## 示すこと

* `loadPackages_cases` — `loadPackages` の答えは五通り。
* `loadPackages_selected` — 候補が読まれていれば、選ばれた package はその一つで `default` が真。
* `loadPackages_post_without_resize` — package を指定しない POST は、resize でなければ何も選ばない。
  source の注記は create でも default を選ぶと言うが、その前に返ってしまう。
* `loadByName_throws` — 名前で二つ以上が返り、その一つの版が semver でなければ投げる。
* `get_on_packages_path` — pathname が `/packages` で終わる要求では、`loadPackages` は何も
  選ばず、名前で聞いても `<package> not found` になる。
* `loadPackages_pkg_congr` — `req.pkg` は `T` に絞った問い合わせの答えにしか依らない。
-/

namespace CloudApi.Packages

open Js

/-! ## `translate` -/

/-- `translate` の返す object。`none` はその key が無いこと。 -/
structure PkgView where
  name : Option String
  memory : Option Nat
  disk : Option Nat
  swap : Option Nat
  vcpus : Nat
  «default» : Bool
  id : Option String
  version : Option String
  description : Option String
  group : Option String
  deriving DecidableEq, Repr

/-- `translate(req, pkg)`。 -/
def translate (req : Request) (pkg : Pkg) : PkgView :=
  let p : PkgView :=
    { name := pkg.name, memory := pkg.max_physical_memory, disk := pkg.quota,
      swap := pkg.max_swap, vcpus := pkg.vcpus.getD 0, «default» := pkg.default,
      id := none, version := none, description := none, group := none }
  if is65 req.version then p
  else
    { p with id := some pkg.uuid, version := pkg.version,
             description := pkg.description.filter (· != ""), group := pkg.group.filter (· != "") }

/-! ## `loadPackages` -/

/-- `req.pkg` と `req.packages`。`false` と未設定はどちらも `none`。 -/
structure PkgSel where
  pkg : Option Pkg := none
  packages : Option (List Pkg) := none
  deriving DecidableEq, Repr

/-- 名前での選択の問い合わせ：その名前の、`T` の、active な package。 -/
def byNameQuery (req : Request) (name : String) : PkgQuery :=
  { name := some name, owner_uuids := some req.account.uuid, active := some true }

/-- create と resize のための問い合わせ：`T` の、active な package。 -/
def defaultQuery (req : Request) : PkgQuery :=
  { owner_uuids := some req.account.uuid, active := some true }

/-- 名前での選択（`papi.list({name, owner_uuids, active})` の callback）。 -/
def loadByName (papi : Papi) (req : Request) (name : String) : Except Err PkgSel := do
  let pkgs ← papi.list (byNameQuery req name)
  if pkgs.isEmpty then pure {}
  else pure { pkg := some (← pickNewest Pkg.version pkgs) }

/-- default の選択（`papi.list({owner_uuids, active})` の callback）。 -/
def loadDefault (papi : Papi) (req : Request) : Except Err PkgSel := do
  let pkgs ← papi.list (defaultQuery req)
  let pkg := pkgs.filter (·.default)
  if pkg.isEmpty then pure { packages := some pkgs }
  else pure { pkg := some (← pickNewest Pkg.version pkg), packages := some pkgs }

/-- `loadPackages(req, res, next)`。 -/
def loadPackages (papi : Papi) (req : Request) : Except Err PkgSel :=
  if req.url = "/--ping" then .ok {}
  else if endsWith req.pathname "/packages" then .ok {}
  else
    match req.arg "package" with
    | some name =>
      if uuidRe name then do
        let pkg ← papi.get name req.account.uuid
        pure { pkg := some pkg }
      else loadByName papi req name
    | none =>
      if endsWith req.pathname "/machines" && toLowerCase req.method != "post" then do
        let pkgs ← papi.list {}
        pure { packages := some pkgs }
      else if toLowerCase req.method != "post" || req.arg "action" != some "resize" then .ok {}
      else loadDefault papi req

/-! ## 選ばれた package -/

/-- 候補が読まれて package が選ばれていれば、それは候補の一つで `default` が真。 -/
def PkgSelected (s : PkgSel) : Prop :=
  ∀ ps p, s.packages = some ps → s.pkg = some p → p ∈ ps ∧ p.default = true

section Select

variable {papi : Papi} {req : Request} {s : PkgSel}

theorem loadByName_packages {name : String} (h : loadByName papi req name = .ok s) :
    s.packages = none := by
  obtain ⟨pkgs, -, h⟩ := bind_eq_ok h
  split at h
  · cases h; rfl
  · obtain ⟨p, -, h⟩ := bind_eq_ok h
    cases h; rfl

/-- default の選択は、`T` の active な package を候補に置き、default のものから一つ選ぶ。 -/
theorem loadDefault_selected {pkgs : List Pkg} (hl : papi.list (defaultQuery req) = .ok pkgs)
    (h : loadDefault papi req = .ok s) :
    s.packages = some pkgs ∧ PkgSelected s ∧ (pkgs.any (·.default) → s.pkg.isSome) := by
  rw [loadDefault, hl, ok_bind] at h
  dsimp only at h
  split at h
  · next he =>
    cases h
    refine ⟨rfl, ?_, fun hd => ?_⟩
    · intro _ _ _ h; cases h
    obtain ⟨p, hp, hpd⟩ := List.any_eq_true.1 hd
    exact absurd (List.mem_filter.2 ⟨hp, hpd⟩) (List.isEmpty_iff.1 he ▸ List.not_mem_nil p)
  · obtain ⟨p, hp, h⟩ := bind_eq_ok h
    cases h
    refine ⟨rfl, ?_, fun _ => rfl⟩
    intro _ _ hps hq
    cases hps; cases hq
    exact List.mem_filter.1 (pickNewest_mem _ hp)

/-- **`loadPackages` の答えは五通り：何も選ばない、UUID で取る、名前で選ぶ、machine 一覧のために全件を読む、
default を選ぶ。** -/
theorem loadPackages_cases (h : loadPackages papi req = .ok s) :
    s = {} ∨
      (∃ name p, req.arg "package" = some name ∧ uuidRe name = true ∧
        papi.get name req.account.uuid = .ok p ∧ s = { pkg := some p }) ∨
      (∃ name, req.arg "package" = some name ∧ uuidRe name = false ∧
        loadByName papi req name = .ok s) ∨
      (∃ pkgs, req.arg "package" = none ∧ papi.list {} = .ok pkgs ∧ s = { packages := some pkgs }) ∨
      (req.arg "package" = none ∧ loadDefault papi req = .ok s) := by
  unfold loadPackages at h
  split at h; · exact .inl (Except.ok.inj h).symm
  split at h; · exact .inl (Except.ok.inj h).symm
  split at h
  · next _ name hn =>
    split at h
    · next hu =>
      obtain ⟨p, hp, h⟩ := bind_eq_ok h
      exact .inr (.inl ⟨name, p, hn, hu, hp, (Except.ok.inj h).symm⟩)
    · next hu => exact .inr (.inr (.inl ⟨name, hn, by simpa using hu, h⟩))
  · next _ hn =>
    split at h
    · obtain ⟨pkgs, hp, h⟩ := bind_eq_ok h
      exact .inr (.inr (.inr (.inl ⟨pkgs, hn, hp, (Except.ok.inj h).symm⟩)))
    split at h
    · exact .inl (Except.ok.inj h).symm
    · exact .inr (.inr (.inr (.inr ⟨hn, h⟩)))

/-- **`loadPackages` が選んだ package は、候補が読まれていればその一つで、`default` が真。** -/
theorem loadPackages_selected (h : loadPackages papi req = .ok s) : PkgSelected s := by
  intro ps p hps hp
  rcases loadPackages_cases h with rfl | ⟨_, _, -, -, -, rfl⟩ | ⟨_, -, -, hn⟩ | ⟨_, -, -, rfl⟩ | ⟨-, hd⟩
  · cases hps
  · cases hps
  · rw [loadByName_packages hn] at hps; cases hps
  · cases hp
  · obtain ⟨pkgs, hl, -⟩ := bind_eq_ok hd
    exact (loadDefault_selected hl hd).2.1 ps p hps hp

/-- UUID で取った package には候補が無い。 -/
theorem loadPackages_byUuid {name : String} (hn : req.arg "package" = some name)
    (hu : uuidRe name = true) (h : loadPackages papi req = .ok s) : s.packages = none := by
  rcases loadPackages_cases h with rfl | ⟨_, _, -, -, -, rfl⟩ | ⟨_, hn', hu', -⟩ | ⟨_, hn', -⟩ | ⟨hn', -⟩
  · rfl
  · rfl
  · rw [hn, Option.some.injEq] at hn'
    rw [← hn', hu] at hu'; cases hu'
  all_goals rw [hn] at hn'; cases hn'

/-- package を指定しない resize は、default の選択に進む。 -/
theorem loadPackages_resize (hp : req.url ≠ "/--ping")
    (hpath : endsWith req.pathname "/packages" = false) (hpk : req.arg "package" = none)
    (hpost : toLowerCase req.method = "post") (ha : req.arg "action" = some "resize") :
    loadPackages papi req = loadDefault papi req := by
  simp [loadPackages, hp, hpath, hpk, hpost, ha]

/--
**package を指定しない resize は、`T` の active な package に default のものがあれば、
それを候補に置き、default のものを一つ選ぶ。**
-/
theorem loadPackages_resize_selects_default (hp : req.url ≠ "/--ping")
    (hpath : endsWith req.pathname "/packages" = false) (hpk : req.arg "package" = none)
    (hpost : toLowerCase req.method = "post") (ha : req.arg "action" = some "resize")
    {pkgs : List Pkg} (hl : papi.list (defaultQuery req) = .ok pkgs) (hd : pkgs.any (·.default))
    (h : loadPackages papi req = .ok s) :
    s.packages = some pkgs ∧ ∃ p, s.pkg = some p ∧ p ∈ pkgs ∧ p.default = true := by
  rw [loadPackages_resize hp hpath hpk hpost ha] at h
  obtain ⟨hps, hsel, hsome⟩ := loadDefault_selected hl h
  obtain ⟨p, hp⟩ := Option.isSome_iff_exists.1 (hsome hd)
  exact ⟨hps, p, hp, hsel pkgs p hps hp⟩

/-- `T` の default の package を、resize で選ぶ。 -/
theorem loadPackages_resize_selects_default_small :
    let p₁ : Pkg := { uuid := "p1", name := some "small", version := some "1.0.0", «default» := true,
                      owner_uuids := ["t"] }
    let cat : Catalog := ⟨[p₁], []⟩
    let req : Request := ⟨"/T/machines/m1?action=resize", "POST",
      [("account", "T"), ("machine", "m1"), ("action", "resize")], "7.0.0", ⟨"t", "T"⟩⟩
    loadPackages cat.papi req = .ok { pkg := some p₁, packages := some [p₁] } ∧
      ((({ pkg := some p₁, packages := some [p₁] } : PkgSel).packages = some [p₁]) ∧
        ∃ p, ({ pkg := some p₁, packages := some [p₁] } : PkgSel).pkg = some p ∧ p ∈ [p₁] ∧
          p.default = true) := by
  intro p₁ cat req
  have h : loadPackages cat.papi req = .ok { pkg := some p₁, packages := some [p₁] } := by decide
  exact ⟨h, loadPackages_resize_selects_default (by decide) (by decide) (by decide) (by decide)
    (by decide) (by decide) (by decide) h⟩

/-- **package を指定しない POST は、resize でなければ何も選ばない。** -/
theorem loadPackages_post_without_resize (hpk : req.arg "package" = none)
    (hpost : toLowerCase req.method = "post") (ha : req.arg "action" ≠ some "resize") :
    loadPackages papi req = .ok {} := by
  simp [loadPackages, hpk, hpost, ha]

/-- `T` に default の package があっても、package を指定しない create では何も選ばれない。 -/
theorem loadPackages_create_ignores_default :
    let cat : Catalog :=
      ⟨[{ uuid := "p1", name := some "small", version := some "1.0.0", «default» := true,
          owner_uuids := ["t"] }], []⟩
    cat.papi.list (defaultQuery ⟨"/T/machines", "POST", [("account", "T")], "7.0.0", ⟨"t", "T"⟩⟩) =
        .ok cat.packages ∧
      loadPackages cat.papi ⟨"/T/machines", "POST", [("account", "T")], "7.0.0", ⟨"t", "T"⟩⟩ =
        .ok {} :=
  ⟨by decide, loadPackages_post_without_resize rfl (by decide) (by decide)⟩

end Select

/-! ## 一つの package を返す -/

/-- `get(req, res, next)`：`req.pkg` を translate する。 -/
def get (req : Request) (sel : PkgSel) : Except Err PkgView :=
  match sel.pkg with
  | some p => .ok (translate req p)
  | none => .error (.notFound (((req.params.lookup "package").getD "undefined") ++ " not found"))

/-- 名前での選択の問い合わせが通すのは、`T` から見える active な、その名前の package。 -/
theorem byNameQuery_admits (req : Request) (name : String) (p : Pkg) :
    (byNameQuery req name).admits p =
      (p.visibleTo req.account.uuid && p.active && p.name == some name) := by
  simp [byNameQuery, PkgQuery.admits, fieldIs, Bool.and_comm]

/--
**`GET /:account/packages/:package` を名前で聞くと、`T` から見える active なその名前の package の
うち、版の precedence が最大で並びで最初のものが返る。無ければ `<name> not found`。**
それらの版がどれも semver として valid で、数が安全な整数であることを前提とする
（valid でなければ `loadByName_throws`、安全でなければ丸めた数で比べる）。
-/
theorem get_by_name {cat : Catalog} {req : Request} {name : String}
    (hp : req.url ≠ "/--ping") (hpath : endsWith req.pathname "/packages" = false)
    (hn : req.arg "package" = some name) (hu : uuidRe name = false)
    (hv : ∀ p ∈ cat.packages, p.visibleTo req.account.uuid → p.active → p.name = some name →
      (Semver.valid p.version).any Semver.Version.safe) :
    let named := cat.packages.filter fun p =>
      p.visibleTo req.account.uuid && p.active && p.name == some name
    (named = [] ∧
        (loadPackages cat.papi req >>= Packages.get req) = .error (.notFound (name ++ " not found"))) ∨
      ∃ p, IsFirstMax (rank Pkg.version) named p ∧
        (loadPackages cat.papi req >>= Packages.get req) = .ok (translate req p) := by
  intro named
  have hl : loadPackages cat.papi req = loadByName cat.papi req name := by
    simp [loadPackages, hp, hpath, hn, hu]
  have hq : cat.papi.list (byNameQuery req name) = .ok named := by
    rw [Catalog.papi_list]
    exact congrArg _ (List.filter_congr fun p _ => byNameQuery_admits req name p)
  rw [hl, loadByName, hq, ok_bind]
  cases hnamed : named with
  | nil => exact .inl ⟨rfl, by simp [Packages.get, Request.lookup_of_arg hn]⟩
  | cons x xs =>
    right
    have hval : ∀ y ∈ named, (Semver.valid y.version).any Semver.Version.safe := fun y hy => by
      simp only [named, List.mem_filter, Bool.and_eq_true, beq_iff_eq] at hy
      exact hv y hy.1 hy.2.1.1 hy.2.1.2 hy.2.2
    rw [hnamed] at hval
    obtain ⟨m, hm, hfm⟩ := foldlM_newer_first_max Pkg.version xs [x] x
      (fun y hy => hval y (List.mem_cons_of_mem x hy)) (hval x (List.mem_cons_self x xs))
      (isFirstMax_singleton x)
    refine ⟨m, hfm, ?_⟩
    simp only [List.isEmpty_cons, Bool.false_eq_true, if_false, pickNewest, reduce_cons, hm,
      ok_bind, pure_eq_ok]
    rfl

/-- `T` の `1.0.0` と、誰のものでもない `1.1.0` が同じ名前なら、`1.1.0` が返る。 -/
theorem get_by_name_newest :
    let cat : Catalog :=
      ⟨[{ uuid := "p1", name := some "small", version := some "1.0.0", owner_uuids := ["t"] },
        { uuid := "p2", name := some "small", version := some "1.1.0" }], []⟩
    let req : Request :=
      ⟨"/T/packages/small", "GET", [("account", "T"), ("package", "small")], "7.0.0", ⟨"t", "T"⟩⟩
    req.url ≠ "/--ping" ∧ endsWith req.pathname "/packages" = false ∧
      req.arg "package" = some "small" ∧ uuidRe "small" = false ∧
      (∀ p ∈ cat.packages, p.visibleTo req.account.uuid → p.active → p.name = some "small" →
        (Semver.valid p.version).any Semver.Version.safe) ∧
      (let named := cat.packages.filter fun p =>
        p.visibleTo req.account.uuid && p.active && p.name == some "small"
       (named = [] ∧ (loadPackages cat.papi req >>= Packages.get req) =
          .error (.notFound ("small" ++ " not found"))) ∨
        ∃ p, IsFirstMax (rank Pkg.version) named p ∧
          (loadPackages cat.papi req >>= Packages.get req) = .ok (translate req p)) := by
  intro cat req
  exact ⟨by decide, by decide, by decide, by decide, by decide,
    get_by_name (by decide) (by decide) (by decide) (by decide) (by decide)⟩

example :
    let cat : Catalog :=
      ⟨[{ uuid := "p1", name := some "small", «default» := true, owner_uuids := ["t"] }], []⟩
    loadPackages cat.papi ⟨"/T/machines/packages?action=resize", "POST",
      [("account", "T"), ("machine", "packages"), ("action", "resize")], "7.0.0", ⟨"t", "T"⟩⟩ =
        .ok {} := by
  decide

/-! ## 名前での選択と不正な版 -/

/-- **名前で二つ以上が返り、その一つの版が semver でなければ、`loadByName` は投げる。** -/
theorem loadByName_throws {papi : Papi} {req : Request} {name : String} {pkgs : List Pkg}
    (hl : papi.list (byNameQuery req name) = .ok pkgs) (h2 : 2 ≤ pkgs.length)
    (hx : ∃ p ∈ pkgs, Semver.valid p.version = none) :
    loadByName papi req name = .error Semver.invalidVersion := by
  have hne : pkgs.isEmpty = false := by cases pkgs <;> simp_all
  simp only [loadByName, hl, ok_bind, hne, Bool.false_eq_true, if_false,
    pickNewest_throws Pkg.version pkgs h2 hx]
  rfl

/-- 版 `1.0` と `1.0.0` の package が同じ名前なら、名前での選択は `Invalid Version: null` で投げる。 -/
theorem loadPackages_throws_on_short_version :
    loadPackages (Catalog.papi ⟨[{ uuid := "p1", name := some "small", version := some "1.0" },
        { uuid := "p2", name := some "small", version := some "1.0.0" }], []⟩)
      ⟨"/T/machines", "POST", [("account", "T"), ("package", "small")], "7.0.0", ⟨"t", "T"⟩⟩ =
      .error Semver.invalidVersion := by
  decide

/-! ## backend を替えても同じ `req.pkg` -/

/--
**`req.pkg` は、`T` に絞った問い合わせの答えと、絞らない一覧の成否だけで決まる。**
絞らない一覧（machine 一覧のため）は `req.packages` にしか入らない。
-/
theorem loadPackages_pkg_congr {papi₁ papi₂ : Papi} {req : Request}
    (hget : ∀ id, papi₁.get id req.account.uuid = papi₂.get id req.account.uuid)
    (hlist : ∀ q : PkgQuery, q.owner_uuids = some req.account.uuid → papi₁.list q = papi₂.list q)
    (hall : (papi₁.list {}).map (fun _ => ()) = (papi₂.list {}).map (fun _ => ())) :
    (loadPackages papi₁ req).map (·.pkg) = (loadPackages papi₂ req).map (·.pkg) := by
  unfold loadPackages
  split; · rfl
  split; · rfl
  split
  · split
    · rw [hget]
    · rw [loadByName, loadByName, hlist (byNameQuery req _) rfl]
  · split
    · cases h₁ : papi₁.list {} <;> cases h₂ : papi₂.list {} <;>
        simp only [h₁, h₂, Except.map, Except.error.injEq, reduceCtorEq] at hall ⊢
      · rw [hall]
      · rfl
    split; · rfl
    rw [loadDefault, loadDefault, hlist (defaultQuery req) rfl]

/-! ## `list` の filter と cache key -/

/-- `list` が `req.params` から作る filter（`opts`）。truthy な param だけが入る。 -/
def listFilters (req : Request) : PkgQuery :=
  { name := req.arg "name", max_physical_memory := req.arg "memory", quota := req.arg "disk",
    max_swap := req.arg "swap", version := req.arg "version", vcpus := req.arg "vcpus",
    group := req.arg "group" }

/-- `canUseCache = (Object.keys(opts).length === 0)`。 -/
def canUseCache (q : PkgQuery) : Bool :=
  q.name.isNone && q.max_physical_memory.isNone && q.quota.isNone && q.max_swap.isNone &&
    q.version.isNone && q.vcpus.isNone && q.group.isNone

/-- `papi.list` に渡る問い合わせ：filter に `active: true` と `owner_uuids` を足したもの。 -/
def listQuery (req : Request) : PkgQuery :=
  { listFilters req with active := some true, owner_uuids := some req.account.uuid }

/-- `getCacheKey(req)`。 -/
def getCacheKey (req : Request) : String := "packages_" ++ req.account.uuid

/-- filter の無い要求の問い合わせは `{active: true, owner_uuids: T}` そのもの。 -/
theorem listQuery_of_canUseCache {req : Request} (h : canUseCache (listFilters req)) :
    listQuery req = { active := some true, owner_uuids := some req.account.uuid } := by
  simp only [canUseCache, listFilters, Bool.and_eq_true, Option.isNone_iff_eq_none] at h
  simp [listQuery, listFilters, h]

theorem getCacheKey_injective {T₁ T₂ : String} (h : "packages_" ++ T₁ = "packages_" ++ T₂) :
    T₁ = T₂ := by
  have := congrArg String.data h
  simp only [String.data_append, List.append_cancel_left_eq] at this
  exact String.ext this

end CloudApi.Packages
