import CloudApi.Js

/-!
# 要求と backend

`lib/packages.js` と `lib/datasets.js` が読む要求と、二つの backend。

* `Request` — restify の `req` のうち読むもの：`req.url`、`req.method`、`req.params`、
  `req.getVersion()`、`req.account`。
* `Pkg`・`Image` — PAPI・IMGAPI が返す record のうち、コードが読む field。
* `Papi`・`Imgapi` — backend の client。コードは呼んで答えを使うだけなので、何を返すかは引数に取る。
* `Catalog` — backend の中身。仕様 §6 の `CatalogClient` の契約に従い、owner で絞った
  問い合わせはその tenant から見えるものだけを返し、`getImage` は誰のものでも返す。
  tenant の間の独立性（`Preload`）はこの上で言う。

`req.params` の値は文字列とする（restify が query、route、body から写したもの）。
ここで読む param はどれも truthiness か `||` か文字列との比較にしか使われないので、
`Request.arg` は空でない値だけを返す。
-/

namespace CloudApi

/-! ## 要求 -/

structure Account where
  uuid : String
  login : String
  deriving DecidableEq, Repr

structure Request where
  /-- `req.url`：path と query string。 -/
  url : String
  method : String
  params : List (String × String)
  /-- `req.getVersion()`：`X-Api-Version`（`Accept-Version`）か、無ければ `'*'`。 -/
  version : String
  account : Account
  deriving DecidableEq, Repr

/-- `req.params[k]` が truthy なときの値。 -/
def Request.arg (req : Request) (k : String) : Option String :=
  (req.params.lookup k).filter (· != "")

/-- truthy な param は `req.params` にその値で入っている。 -/
theorem Request.lookup_of_arg {req : Request} {k v : String} (h : req.arg k = some v) :
    req.params.lookup k = some v := by
  unfold Request.arg at h
  cases hl : req.params.lookup k <;> simp_all [Option.filter]

/-- `req.getUrl().pathname`：`?` と `#` より前。 -/
def Request.pathname (req : Request) : String :=
  String.mk (req.url.toList.takeWhile fun c => c != '?' && c != '#')

/-- `req.params.image || req.params.dataset`。 -/
def Request.imageUUID (req : Request) : Option String :=
  req.arg "image" <|> req.arg "dataset"

/--
`/6\.5/.test(req.getVersion())`。`packages.translate`、`datasets.load`、`datasets.list` と
HEAD の `sendZeroContentLengthon65` が、6.5 の client かどうかをこれで決める。
-/
def is65 (v : String) : Bool := Js.includes v "6.5"

/-! ## PAPI -/

structure Pkg where
  uuid : String
  name : Option String := none
  version : Option String := none
  active : Bool := true
  «default» : Bool := false
  /-- 空なら誰のものでもない（どの tenant からも見える）package。 -/
  owner_uuids : List String := []
  max_physical_memory : Option Nat := none
  quota : Option Nat := none
  max_swap : Option Nat := none
  vcpus : Option Nat := none
  description : Option String := none
  group : Option String := none
  deriving DecidableEq, Repr

/-- `papi.list` の filter。値は `req.params` から来る文字列。 -/
structure PkgQuery where
  name : Option String := none
  max_physical_memory : Option String := none
  quota : Option String := none
  max_swap : Option String := none
  version : Option String := none
  vcpus : Option String := none
  group : Option String := none
  active : Option Bool := none
  owner_uuids : Option String := none
  deriving DecidableEq, Repr

/-- PAPI の client：`papi.get(uuid, {owner_uuids})` と `papi.list(filter, {})`。 -/
structure Papi where
  get : String → String → Except Err Pkg
  list : PkgQuery → Except Err (List Pkg)

/-! ## IMGAPI -/

structure Requirements where
  password : Option String
  max_ram : Option Nat
  min_ram : Option Nat
  deriving DecidableEq, Repr

/--
`translate` が中を見ずに写す field（`tags`・`acl`）の値。IMGAPI の image では record の値、
`create` が組み立てる `data` では `req.params` の文字列。
-/
inductive FieldValue (α : Type) where
  | record (v : α)
  | param (s : String)
  deriving DecidableEq, Repr

/-- IMGAPI の image の `error` field。 -/
structure ImgError where
  code : Option String
  message : Option String
  /-- `code`・`message` 以外の property。 -/
  rest : List (String × String) := []
  deriving DecidableEq, Repr

structure Image where
  uuid : String
  name : Option String := none
  version : Option String := none
  os : Option String := none
  type : Option String := none
  description : Option String := none
  requirements : Option Requirements := none
  urn : Option String := none
  published_at : Option String := none
  homepage : Option String := none
  tags : Option (FieldValue (List (String × String))) := none
  owner : Option String := none
  «public» : Option Bool := none
  state : Option String := none
  eula : Option String := none
  acl : Option (FieldValue (List String)) := none
  origin : Option String := none
  error : Option ImgError := none
  deriving DecidableEq, Repr

/-- `imgapi.listImages(opts)` の `opts`。 -/
structure ImgQuery where
  account : Option String := none
  name : Option String := none
  os : Option String := none
  version : Option String := none
  «public» : Option String := none
  state : Option String := none
  owner : Option String := none
  /-- `type` の表を引いた値。表に無い名前なら `undefined`、`constructor` などなら `Object.prototype` の関数。 -/
  type : Option (Js.JsProp String) := none
  deriving DecidableEq, Repr

/-- IMGAPI の client：`imgapi.getImage(uuid)` と `imgapi.listImages(opts)`。 -/
structure Imgapi where
  getImage : String → Except Err Image
  listImages : ImgQuery → Except Err (List Image)

/-! ## backend の中身 -/

/-- backend の中身。並びは backend が返す並び。 -/
structure Catalog where
  packages : List Pkg
  images : List Image
  deriving DecidableEq, Repr

/-- PAPI の `owner_uuids` での絞り込み：owner の無い package と、`T` が owner の package。 -/
def Pkg.visibleTo (T : String) (p : Pkg) : Bool :=
  p.owner_uuids.isEmpty || p.owner_uuids.contains T

/-- IMGAPI の `account` での絞り込み：public、`T` が owner、`T` が ACL にある image。 -/
def Image.visibleTo (T : String) (img : Image) : Bool :=
  img.public == some true || img.owner == some T ||
    match img.acl with
    | some (.record l) => l.contains T
    | _ => false

/-- filter の一つの field：指定があれば等しいこと。 -/
def fieldIs (q v : Option String) : Bool := q.all fun s => v == some s

def PkgQuery.admits (q : PkgQuery) (p : Pkg) : Bool :=
  q.owner_uuids.all (p.visibleTo ·) && q.active.all (· == p.active) &&
    fieldIs q.name p.name && fieldIs q.max_physical_memory (p.max_physical_memory.map toString) &&
    fieldIs q.quota (p.quota.map toString) && fieldIs q.max_swap (p.max_swap.map toString) &&
    fieldIs q.version p.version && fieldIs q.vcpus (p.vcpus.map toString) &&
    fieldIs q.group p.group

/-- IMGAPI の `state`：指定が無ければ `active`、`all` なら何でも。 -/
def stateAdmits : Option String → Option String → Bool
  | none, st => st == some "active"
  | some "all", _ => true
  | some s, st => st == some s

/--
`opts.type` での絞り込み：文字列なら等しいこと。`undefined` と `Object.prototype` の関数は、
client が query string にするとき空の値になり、IMGAPI は空の値では絞らない。
-/
def typeIs : Option (Js.JsProp String) → Option String → Bool
  | some (.own t), v => v == some t
  | _, _ => true

def ImgQuery.admits (q : ImgQuery) (img : Image) : Bool :=
  q.account.all (img.visibleTo ·) && stateAdmits q.state img.state &&
    fieldIs q.name img.name && fieldIs q.os img.os && fieldIs q.version img.version &&
    fieldIs q.public (img.public.map toString) && fieldIs q.owner img.owner &&
    typeIs q.type img.type

def Catalog.papi (cat : Catalog) : Papi where
  get id T :=
    match cat.packages.find? fun p => p.uuid == id && p.visibleTo T with
    | some p => .ok p
    | none => .error (.backend "ResourceNotFound")
  list q := .ok (cat.packages.filter q.admits)

def Catalog.imgapi (cat : Catalog) : Imgapi where
  getImage id :=
    match cat.images.find? (·.uuid == id) with
    | some img => .ok img
    | none => .error (.backend "ResourceNotFound")
  listImages q := .ok (cat.images.filter q.admits)

/-! ## `Catalog` の答え -/

@[simp] theorem Catalog.papi_list (cat : Catalog) (q : PkgQuery) :
    cat.papi.list q = .ok (cat.packages.filter q.admits) := rfl

@[simp] theorem Catalog.imgapi_listImages (cat : Catalog) (q : ImgQuery) :
    cat.imgapi.listImages q = .ok (cat.images.filter q.admits) := rfl

/-- `getImage` が返すのは、中身にあってその uuid を持つ image。 -/
theorem Catalog.getImage_ok {cat : Catalog} {id : String} {img : Image}
    (h : cat.imgapi.getImage id = .ok img) : img ∈ cat.images ∧ img.uuid = id := by
  simp only [Catalog.imgapi] at h
  split at h
  · next hf =>
    cases h
    exact ⟨List.mem_of_find?_eq_some hf, by simpa using List.find?_some hf⟩
  · cases h

/-- 状態の指定が無ければ、active な image だけが通る。 -/
theorem stateAdmits_none {st : Option String} (h : stateAdmits none st = true) :
    st = some "active" := by
  simpa [stateAdmits] using h

/-- `all` でない状態を指定すれば、その状態の image だけが通る。 -/
theorem stateAdmits_some {s : String} {st : Option String} (hs : s ≠ "all")
    (h : stateAdmits (some s) st = true) : st = some s := by
  unfold stateAdmits at h
  split at h <;> simp_all

/-! ## tenant から見える部分 -/

/-- `T` から見える package と image。 -/
def Catalog.visibleTo (cat : Catalog) (T : String) : List Pkg × List Image :=
  (cat.packages.filter (Pkg.visibleTo T), cat.images.filter (Image.visibleTo T))

section Congr

variable {cat₁ cat₂ : Catalog} {T : String}

theorem PkgQuery.admits_visible {q : PkgQuery} (hq : q.owner_uuids = some T) {p : Pkg}
    (h : q.admits p) : p.visibleTo T := by
  simp_all [PkgQuery.admits]

theorem ImgQuery.admits_state {q : ImgQuery} {img : Image} (h : q.admits img) :
    stateAdmits q.state img.state := by
  simp only [ImgQuery.admits, Bool.and_eq_true] at h
  exact h.1.1.1.1.1.1.2

theorem ImgQuery.admits_visible {q : ImgQuery} (hq : q.account = some T) {img : Image}
    (h : q.admits img) : img.visibleTo T := by
  simp_all [ImgQuery.admits]

/-- 見える部分で絞った後なら、絞る前と同じものが残る。 -/
theorem filter_visible {α : Type} {l : List α} {adm vis : α → Bool}
    (h : ∀ x, adm x → vis x) : (l.filter vis).filter adm = l.filter adm := by
  rw [List.filter_filter]
  exact List.filter_congr fun x _ => by cases hx : adm x <;> simp [h x, hx]

/-- 見える部分の等しい二つの列は、見えるものしか通さない filter に同じ答えを返す。 -/
theorem filter_congr_visible {α : Type} {l₁ l₂ : List α} {adm vis : α → Bool}
    (h : ∀ x, adm x → vis x) (hv : l₁.filter vis = l₂.filter vis) :
    l₁.filter adm = l₂.filter adm := by
  rw [← filter_visible h, hv, filter_visible h]

/-- `T` に絞った PAPI の答えは、`T` から見える部分だけで決まる。 -/
theorem papi_congr (h : cat₁.visibleTo T = cat₂.visibleTo T) :
    (∀ id, cat₁.papi.get id T = cat₂.papi.get id T) ∧
    ∀ q : PkgQuery, q.owner_uuids = some T → cat₁.papi.list q = cat₂.papi.list q := by
  have hp := congrArg Prod.fst h
  simp only [Catalog.visibleTo] at hp
  refine ⟨fun id => ?_, fun q hq => ?_⟩
  · have e : ∀ cat : Catalog, cat.packages.find? (fun p => p.uuid == id && p.visibleTo T) =
        (cat.packages.filter (Pkg.visibleTo T)).find? (·.uuid == id) := fun cat => by
      rw [List.find?_filter]
      exact congrArg₂ _ (funext fun p => by cases p.visibleTo T <;> simp [beq_eq_decide]) rfl
    simp only [Catalog.papi, e, hp]
  · exact congrArg Except.ok (filter_congr_visible (fun _ => PkgQuery.admits_visible hq) hp)

/-- `T` に絞った IMGAPI の一覧は、`T` から見える部分だけで決まる。 -/
theorem imgapi_list_congr (h : cat₁.visibleTo T = cat₂.visibleTo T) {q : ImgQuery}
    (hq : q.account = some T) : cat₁.imgapi.listImages q = cat₂.imgapi.listImages q := by
  have hi := congrArg Prod.snd h
  simp only [Catalog.visibleTo] at hi
  exact congrArg Except.ok (filter_congr_visible (fun _ => ImgQuery.admits_visible hq) hi)

/-- `T` に絞った IMGAPI の一覧には、`T` から見える image しか無い。 -/
theorem imgapi_list_visible {cat : Catalog} {q : ImgQuery} (hq : q.account = some T)
    {imgs : List Image} (h : cat.imgapi.listImages q = .ok imgs) :
    ∀ img ∈ imgs, img.visibleTo T := by
  simp only [Catalog.imgapi, Except.ok.injEq] at h
  subst h
  intro img himg
  exact ImgQuery.admits_visible hq (List.mem_filter.1 himg).2

end Congr

end CloudApi
