import CloudApi.Packages
import Mathlib.Logic.Relation

/-!
# package 一覧の cache（`packages.list`）

`list` は filter の無い要求にだけ cache を使い、cache に置くのは `papi.list` の答えそのもの
（translate する前）である。

    cache.get(req, cacheKey, canUseCache, function (err, cachedPkgs) {
        if (!err && cachedPkgs) return sendResult(null, cachedPkgs, false);
        return req.sdc.papi.list(opts, {}, function (err2, pkgs) {
            sendResult(err2, pkgs, canUseCache);
        });
    });

## モデル

cache の store（`lib/cache.js`）は src に無い。仕様 §4.3 の `CacheStore` の契約で置く。
`get` は use flag が偽なら miss を返し、真なら store の値か、miss か、失敗（miss と同じ扱い）を返す。
`set` は best effort で、届くことも届かないこともある。値は TTL で消える。

要求は並行に進む。`cache.get`、`papi.list`、`cache.set` のそれぞれが待ちになり、
その間に他の要求が割り込む。`Step` は一つの要求の一歩か、store の一つの出来事である。
catalog は走っている間は変わらない（`catalog q` が問い合わせ `q` への答え）。

## 示すこと

`Coherent`：store の key `packages_T` の値は `{active: true, owner_uuids: T}` への catalog の答え、
書き込み待ちの `cache.set` も同じ、送った応答はどれもその要求自身の問い合わせへの答えを
translate したもの。`Coherent` は一歩で保たれ（`step_coherent`）、したがってどの実行でも保たれる。
`list_cache_coherent` は応答を、コードの `opts` ではなく仕様の言葉で書いた問い合わせ
（`requestQuery`）と比べ、`listQuery_eq_requestQuery` が二つを繋ぐ。
-/

namespace CloudApi.Packages

/-! ## `sendResult` -/

/-- `sendResult(null, pkgs, saveToCache)`：cache への書き込みと、送る応答。 -/
def sendResult (req : Request) (pkgs : List Pkg) (saveToCache : Bool) :
    List (String × List Pkg) × List PkgView :=
  (if saveToCache then [(getCacheKey req, pkgs)] else [], pkgs.map (translate req))

/-! ## 並行な実行 -/

/-- 途中の要求が何を待っているか。 -/
inductive Phase where
  /-- `cache.get` の答え。 -/
  | getting
  /-- `papi.list` の答え。 -/
  | fetching
  deriving DecidableEq, Repr

structure Pending where
  req : Request
  phase : Phase
  deriving DecidableEq, Repr

/-- store、途中の要求、届く前の `cache.set`、送った応答。 -/
structure Sys where
  store : String → Option (List Pkg)
  pending : List Pending
  writes : List (String × List Pkg)
  sent : List (Request × List PkgView)

/-- 何も無い状態。 -/
def Sys.init : Sys := ⟨fun _ => none, [], [], []⟩

/-- 一歩。`catalog` は `papi.list` が成功したときの答え。 -/
inductive Step (catalog : PkgQuery → List Pkg) : Sys → Sys → Prop where
  /-- 要求が来て、`cache.get(req, cacheKey, canUseCache, …)` を呼ぶ。 -/
  | arrive (s : Sys) (req : Request) :
    Step catalog s { s with pending := ⟨req, .getting⟩ :: s.pending }
  /-- `cache.get` が store の値を返す。use flag が真のときに限る。 -/
  | hit (s : Sys) (req : Request) (v : List Pkg) (hp : ⟨req, .getting⟩ ∈ s.pending)
      (huse : canUseCache (listFilters req)) (hv : s.store (getCacheKey req) = some v) :
    Step catalog s { s with
      pending := s.pending.erase ⟨req, .getting⟩
      writes := (sendResult req v false).1 ++ s.writes
      sent := (req, (sendResult req v false).2) :: s.sent }
  /-- `cache.get` が miss か失敗を返し、`papi.list(opts, …)` を呼ぶ。 -/
  | miss (s : Sys) (req : Request) (hp : ⟨req, .getting⟩ ∈ s.pending) :
    Step catalog s { s with pending := ⟨req, .fetching⟩ :: s.pending.erase ⟨req, .getting⟩ }
  /-- `papi.list` が答え、`sendResult(null, pkgs, canUseCache)`。 -/
  | fetched (s : Sys) (req : Request) (hp : ⟨req, .fetching⟩ ∈ s.pending) :
    Step catalog s { s with
      pending := s.pending.erase ⟨req, .fetching⟩
      writes := (sendResult req (catalog (listQuery req)) (canUseCache (listFilters req))).1 ++
        s.writes
      sent := (req, (sendResult req (catalog (listQuery req))
        (canUseCache (listFilters req))).2) :: s.sent }
  /-- `papi.list` が失敗し、`next(err)`。 -/
  | failed (s : Sys) (req : Request) (hp : ⟨req, .fetching⟩ ∈ s.pending) :
    Step catalog s { s with pending := s.pending.erase ⟨req, .fetching⟩ }
  /-- `cache.set` が store に届く。 -/
  | land (s : Sys) (k : String) (v : List Pkg) (hw : (k, v) ∈ s.writes) :
    Step catalog s { s with
      store := Function.update s.store k (some v)
      writes := s.writes.erase (k, v) }
  /-- `cache.set` が届かない。 -/
  | drop (s : Sys) (w : String × List Pkg) (hw : w ∈ s.writes) :
    Step catalog s { s with writes := s.writes.erase w }
  /-- TTL が切れる。 -/
  | expire (s : Sys) (k : String) :
    Step catalog s { s with store := Function.update s.store k none }

/-! ## 不変条件 -/

variable (catalog : PkgQuery → List Pkg)

/-- filter の無い一覧の問い合わせ `{active: true, owner_uuids: T}`。 -/
def plainQuery (T : String) : PkgQuery := { active := some true, owner_uuids := some T }

/--
仕様の言う「その要求自身の問い合わせ」：認められた七つの filter（`name`・`memory`・`disk`・
`swap`・`version`・`vcpus`・`group`）のうち要求が空でない値で与えたものに、`active: true` と
`owner_uuids: T` を足したもの。`memory`・`disk`・`swap` は PAPI では `max_physical_memory`・
`quota`・`max_swap` と呼ぶ。
-/
def requestQuery (req : Request) : PkgQuery :=
  let given (k : String) : Option String := (req.params.lookup k).filter (· ≠ "")
  { name := given "name", max_physical_memory := given "memory", quota := given "disk",
    max_swap := given "swap", version := given "version", vcpus := given "vcpus",
    group := given "group", active := some true, owner_uuids := some req.account.uuid }

/-- `list` が `papi.list` に渡す `opts` は、仕様の言う問い合わせそのもの。 -/
theorem listQuery_eq_requestQuery (req : Request) : listQuery req = requestQuery req := by
  simp only [listQuery, listFilters, requestQuery, Request.arg, decide_not]
  rfl

/-- store に置いてよい値：key `packages_T` と、`T` の filter の無い問い合わせへの答え。 -/
def CacheEntry (w : String × List Pkg) : Prop :=
  ∃ T, w = ("packages_" ++ T, catalog (plainQuery T))

structure Coherent (s : Sys) : Prop where
  store : ∀ T v, s.store ("packages_" ++ T) = some v → v = catalog (plainQuery T)
  writes : ∀ w ∈ s.writes, CacheEntry catalog w
  sent : ∀ o ∈ s.sent, o.2 = (catalog (listQuery o.1)).map (translate o.1)

theorem coherent_init : Coherent catalog Sys.init :=
  ⟨by simp [Sys.init], by simp [Sys.init], by simp [Sys.init]⟩

variable {catalog}

/-- `sendResult` が書くのは、置いてよい値だけ。 -/
theorem sendResult_writes {req : Request} {save : Bool}
    (hsave : save = true → canUseCache (listFilters req)) :
    ∀ w ∈ (sendResult req (catalog (listQuery req)) save).1, CacheEntry catalog w := by
  cases save with
  | false => simp [sendResult]
  | true =>
    intro w hw
    simp only [sendResult, if_true, List.mem_singleton] at hw
    exact ⟨req.account.uuid, by rw [hw, getCacheKey, listQuery_of_canUseCache (hsave rfl), plainQuery]⟩

/-- 置いてよい値が届いても、store は `Coherent` のまま。 -/
theorem store_update {store : String → Option (List Pkg)} {k : String} {v : List Pkg}
    (hs : ∀ T v, store ("packages_" ++ T) = some v → v = catalog (plainQuery T))
    (hw : CacheEntry catalog (k, v)) :
    ∀ T v', Function.update store k (some v) ("packages_" ++ T) = some v' →
      v' = catalog (plainQuery T) := by
  obtain ⟨T', hk⟩ := hw
  simp only [Prod.mk.injEq] at hk
  intro T v' h
  by_cases hT : "packages_" ++ T = k
  · rw [hT, Function.update_same, Option.some.injEq] at h
    rw [← h, hk.2, getCacheKey_injective (hT.trans hk.1)]
  · rw [Function.update_noteq hT] at h
    exact hs T v' h

/-- **一歩で `Coherent` は保たれる。** -/
theorem step_coherent {s s' : Sys} (hc : Coherent catalog s) (h : Step catalog s s') :
    Coherent catalog s' := by
  cases h with
  | arrive => exact ⟨hc.store, hc.writes, hc.sent⟩
  | hit req v _ huse hv =>
    refine ⟨hc.store, by simpa [sendResult] using hc.writes, fun o ho => ?_⟩
    rcases List.mem_cons.1 ho with rfl | ho
    · rw [listQuery_of_canUseCache huse, ← plainQuery, ← hc.store _ v hv]; rfl
    · exact hc.sent o ho
  | miss => exact ⟨hc.store, hc.writes, hc.sent⟩
  | fetched req =>
    refine ⟨hc.store, ?_, ?_⟩
    · intro w hw
      rcases List.mem_append.1 hw with hw | hw
      · exact sendResult_writes id w hw
      · exact hc.writes w hw
    · intro o ho
      rcases List.mem_cons.1 ho with rfl | ho
      · rfl
      · exact hc.sent o ho
  | failed => exact ⟨hc.store, hc.writes, hc.sent⟩
  | land k v hw =>
    exact ⟨store_update hc.store (hc.writes _ hw),
      fun w hw' => hc.writes w (List.mem_of_mem_erase hw'), hc.sent⟩
  | drop w _ => exact ⟨hc.store, fun w' hw' => hc.writes w' (List.mem_of_mem_erase hw'), hc.sent⟩
  | expire k =>
    refine ⟨fun T v h => ?_, hc.writes, hc.sent⟩
    dsimp only at h
    by_cases hT : "packages_" ++ T = k
    · rw [hT, Function.update_same] at h
      cases h
    · exact hc.store T v (by rwa [Function.update_noteq hT] at h)

/-- どの実行でも `Coherent` は保たれる。 -/
theorem run_coherent {s₀ s : Sys} (h₀ : Coherent catalog s₀)
    (hrun : Relation.ReflTransGen (Step catalog) s₀ s) : Coherent catalog s := by
  induction hrun with
  | refl => exact h₀
  | tail _ hstep ih => exact step_coherent ih hstep

/--
**cache からの応答は backend からの応答と同じ。** `Coherent` な状態（空の store など）から
始まる、並行な一覧の要求、cache の miss・失敗、`cache.set` の成否、TTL 切れのどの実行でも、
store の key `packages_T` の値は `{active: true, owner_uuids: T}` への catalog の答えそのもので、
送った応答はどれも、その要求自身の問い合わせ（`requestQuery`）への catalog の答えを
並びのまま translate したもの。
-/
theorem list_cache_coherent {s₀ s : Sys} (h₀ : Coherent catalog s₀)
    (hrun : Relation.ReflTransGen (Step catalog) s₀ s) :
    (∀ T v, s.store ("packages_" ++ T) = some v →
      v = catalog { active := some true, owner_uuids := some T }) ∧
    ∀ req out, (req, out) ∈ s.sent → out = (catalog (requestQuery req)).map (translate req) :=
  have hc := run_coherent h₀ hrun
  ⟨hc.store, fun req out h => listQuery_eq_requestQuery req ▸ hc.sent (req, out) h⟩

/--
filter の無い同じ要求が二度来る実行：一度目は miss で backend から読んで cache に置き、
二度目は cache から答える。二つの応答は同じ。
-/
theorem list_cache_coherent_twice :
    let p₁ : Pkg := { uuid := "p1", name := some "small", owner_uuids := ["t"] }
    let catalog : PkgQuery → List Pkg := fun _ => [p₁]
    let req : Request := ⟨"/T/packages", "GET", [("account", "T")], "7.0.0", ⟨"t", "T"⟩⟩
    ∃ s, Relation.ReflTransGen (Step catalog) Sys.init s ∧
      s.sent = [(req, [translate req p₁]), (req, [translate req p₁])] ∧
      ((∀ T v, s.store ("packages_" ++ T) = some v →
          v = catalog { active := some true, owner_uuids := some T }) ∧
        ∀ req out, (req, out) ∈ s.sent → out = (catalog (requestQuery req)).map (translate req)) := by
  intro p₁ catalog req
  have hrun := ((((((Relation.ReflTransGen.single (@Step.arrive catalog Sys.init req)).tail
    (.miss _ req (by decide))).tail (.fetched _ req (by decide))).tail
    (.land _ (getCacheKey req) (catalog (listQuery req)) (by decide))).tail (.arrive _ req)).tail
    (.hit _ req (catalog (listQuery req)) (by decide) (by decide) (by decide)))
  exact ⟨_, hrun, by decide, list_cache_coherent (coherent_init _) hrun⟩

end CloudApi.Packages
