import CloudApi.Semver.Version
import Mathlib.Order.WithBot

/-!
# 一番新しい版を選ぶ `reduce`

`loadPackages`（名前での選択と default の選択）と `curImg65` は、候補を同じ `reduce` で一つに絞る。

    L.reduce(function (a, b) {
        if (semver.gte(semver.valid(a.version), semver.valid(b.version))) return a;
        else return b;
    });

* `pickNewest_first_max` — 候補の版がすべて valid で、数がどれも安全な整数なら、答えは
  precedence が最大の候補のうち並びで最初のもの。`reduce` は前から畳むので、途中の値は
  いつも「ここまでで最初の最大」である。
* `pickNewest_keeps_first_above_safe` — 安全な整数を超える prerelease の数は double に丸めて
  比べるので、`1.0.0-9007199254740992` と `1.0.0-9007199254740993` は等しいとされ、
  precedence の小さい前の方が残る。
* `pickNewest_throws` — 二つ以上の候補のどれかの版が valid でなければ、`semver.gte` が
  `null` を受け取って投げる。どの候補も、いつかは `a` か `b` として比べられるからである。
-/

namespace CloudApi

open Semver Js

/-- semver.org の precedence の鍵の型。 -/
abbrev PrecKey := ℕ ×ₗ ℕ ×ₗ ℕ ×ₗ WithTop (List (ℕ ⊕ₗ String))

variable {α : Type} (version : α → Option String)

/-- `reduce` に渡す関数。`a` の版が `b` の版以上なら `a`。 -/
def newer (a b : α) : Except Err α := do
  let ge ← gte (valid (version a)) (valid (version b))
  pure (if ge then a else b)

/-- 候補から一番新しい版のものを選ぶ `reduce`。 -/
def pickNewest (L : List α) : Except Err α :=
  reduce (newer version) L

/-- 候補の precedence。版が valid でなければ `⊥`。 -/
def rank (x : α) : WithBot PrecKey := (valid (version x)).map Version.key

theorem rank_of_valid {x : α} {v : Version} (h : valid (version x) = some v) :
    rank version x = ↑v.key := by
  simp only [rank, h, Option.map_some']
  rfl

/-! ## 最初の最大 -/

section FirstMax

variable {β : Type} [LinearOrder β] (k : α → β)

/-- `m` は `L` のうち `k` が最大のもので、並びで最初のもの。 -/
def IsFirstMax (L : List α) (m : α) : Prop :=
  ∃ pre post, L = pre ++ m :: post ∧ (∀ x ∈ pre, k x < k m) ∧ ∀ x ∈ L, k x ≤ k m

variable {k}

theorem IsFirstMax.mem {L : List α} {m : α} (h : IsFirstMax k L m) : m ∈ L := by
  obtain ⟨pre, post, rfl, -, -⟩ := h
  simp

theorem isFirstMax_singleton (x : α) : IsFirstMax k [x] x :=
  ⟨[], [], rfl, by simp, by simp⟩

/-- 後ろに足した候補が最大より大きくなければ、最初の最大は変わらない。 -/
theorem IsFirstMax.snoc_of_le {L : List α} {m y : α} (h : IsFirstMax k L m) (hy : k y ≤ k m) :
    IsFirstMax k (L ++ [y]) m := by
  obtain ⟨pre, post, rfl, hpre, hall⟩ := h
  refine ⟨pre, post ++ [y], by simp, hpre, ?_⟩
  intro x hx
  rcases List.mem_append.1 hx with hx | hx
  · exact hall x hx
  · rw [List.mem_singleton.1 hx]; exact hy

/-- 後ろに足した候補が最大より大きければ、それが新しい最初の最大。 -/
theorem IsFirstMax.snoc_of_lt {L : List α} {m y : α} (h : IsFirstMax k L m) (hy : k m < k y) :
    IsFirstMax k (L ++ [y]) y := by
  obtain ⟨-, -, -, -, hall⟩ := h
  have hle : ∀ x ∈ L, k x < k y := fun x hx => lt_of_le_of_lt (hall x hx) hy
  refine ⟨L, [], rfl, hle, ?_⟩
  intro x hx
  rcases List.mem_append.1 hx with hx | hx
  · exact (hle x hx).le
  · rw [List.mem_singleton.1 hx]

end FirstMax

/-! ## 答えは候補の一つ -/

theorem newer_mem {a b c : α} (h : newer version a b = .ok c) : c = a ∨ c = b := by
  obtain ⟨ge, -, h⟩ := bind_eq_ok h
  cases ge <;> simp_all

theorem foldlM_newer_mem : ∀ (xs : List α) (acc m : α),
    xs.foldlM (newer version) acc = .ok m → m = acc ∨ m ∈ xs
  | [], acc, m, h => .inl (by simpa using h.symm)
  | y :: ys, acc, m, h => by
    obtain ⟨c, hn, h⟩ := bind_eq_ok h
    rcases foldlM_newer_mem ys c m h with rfl | hm
    · rcases newer_mem version hn with rfl | rfl
      · exact .inl rfl
      · exact .inr (List.mem_cons_self _ _)
    · exact .inr (List.mem_cons_of_mem y hm)

/-- `reduce` が返すのは候補の一つ。 -/
theorem pickNewest_mem {L : List α} {m : α} (h : pickNewest version L = .ok m) : m ∈ L := by
  match L, h with
  | x :: xs, h =>
    rcases foldlM_newer_mem version xs x m h with rfl | hm
    · exact List.mem_cons_self _ _
    · exact List.mem_cons_of_mem x hm

/-! ## 版がすべて valid で安全なとき -/

/-- 版が valid で数がどれも安全な整数なら、その版がある。 -/
theorem exists_of_valid_safe {o : Option Version} (h : o.any Version.safe) :
    ∃ v, o = some v ∧ v.safe := by
  cases o with
  | none => cases h
  | some v => exact ⟨v, rfl, h⟩

theorem newer_of_valid {a b : α} {va vb : Version} (ha : valid (version a) = some va)
    (hb : valid (version b) = some vb) (hsa : va.safe) (hsb : vb.safe) :
    newer version a b = .ok (if vb.key ≤ va.key then a else b) := by
  rw [newer, ha, hb, gte_some hsa hsb]
  by_cases h : vb.key ≤ va.key <;> simp [h]

/-- 畳み込みの途中の値は、それまでに見た候補の最初の最大である。 -/
theorem foldlM_newer_first_max : ∀ (xs seen : List α) (acc : α),
    (∀ x ∈ xs, (valid (version x)).any Version.safe) → (valid (version acc)).any Version.safe →
    IsFirstMax (rank version) seen acc →
    ∃ m, xs.foldlM (newer version) acc = .ok m ∧ IsFirstMax (rank version) (seen ++ xs) m
  | [], seen, acc, _, _, h => ⟨acc, rfl, by simpa using h⟩
  | y :: ys, seen, acc, hxs, hacc, h => by
    obtain ⟨va, hva, hsa⟩ := exists_of_valid_safe hacc
    obtain ⟨vy, hvy, hsy⟩ := exists_of_valid_safe (hxs y (List.mem_cons_self y ys))
    have hstep : IsFirstMax (rank version) (seen ++ [y]) (if vy.key ≤ va.key then acc else y) := by
      have hra := rank_of_valid version hva
      have hry := rank_of_valid version hvy
      split
      · next hle => exact h.snoc_of_le (by rw [hra, hry]; exact WithBot.coe_le_coe.2 hle)
      · next hlt =>
        exact h.snoc_of_lt (by rw [hra, hry]; exact WithBot.coe_lt_coe.2 (lt_of_not_le hlt))
    have hacc' : (valid (version (if vy.key ≤ va.key then acc else y))).any Version.safe := by
      split <;> simp [hva, hvy, hsa, hsy]
    obtain ⟨m, hm, hfm⟩ := foldlM_newer_first_max ys _ _
      (fun x hx => hxs x (List.mem_cons_of_mem y hx)) hacc' hstep
    refine ⟨m, ?_, by simpa using hfm⟩
    simp only [List.foldlM_cons, newer_of_valid version hva hvy hsa hsy, bind_pure_comp]
    exact hm

/--
**`reduce` は最初の最大を選ぶ。** 候補の版がすべて valid で、数がどれも安全な整数なら、
`reduce` は投げずに、precedence が最大の候補のうち並びで最初のものを返す。
-/
theorem pickNewest_first_max (L : List α) (hL : L ≠ [])
    (hv : ∀ x ∈ L, (valid (version x)).any Version.safe) :
    ∃ m, pickNewest version L = .ok m ∧ IsFirstMax (rank version) L m := by
  obtain ⟨x, xs, rfl⟩ := List.exists_cons_of_ne_nil hL
  simpa using foldlM_newer_first_max version xs [x] x
    (fun y hy => hv y (List.mem_cons_of_mem x hy)) (hv x (List.mem_cons_self x xs))
    (isFirstMax_singleton x)

/-- 仕様 §8 の例：`1.0.0` と `1.1.0` なら `1.1.0`。 -/
theorem pickNewest_first_max_example :
    [some "1.0.0", some "1.1.0"] ≠ [] ∧
      (∀ x ∈ [some "1.0.0", some "1.1.0"], (valid (id x)).any Version.safe) ∧
      ∃ m, pickNewest id [some "1.0.0", some "1.1.0"] = .ok m ∧
        IsFirstMax (rank id) [some "1.0.0", some "1.1.0"] m :=
  ⟨by decide, by decide, pickNewest_first_max id _ (by decide) (by decide)⟩

/--
**安全な整数を超えると、最初の最大とは限らない。** 二つの版はどちらも valid だが、
prerelease の数 `2^53` と `2^53 + 1` は double では同じ数なので `semver.gte` は `true` を返し、
`reduce` は precedence の小さい前の方を残す。
-/
theorem pickNewest_keeps_first_above_safe :
    (∀ x ∈ [some "1.0.0-9007199254740992", some "1.0.0-9007199254740993"], valid (id x) ≠ none) ∧
      pickNewest id [some "1.0.0-9007199254740992", some "1.0.0-9007199254740993"] =
        .ok (some "1.0.0-9007199254740992") ∧
      ¬ IsFirstMax (rank id) [some "1.0.0-9007199254740992", some "1.0.0-9007199254740993"]
        (some "1.0.0-9007199254740992") := by
  refine ⟨by decide, by decide, fun ⟨_, _, _, _, hall⟩ => ?_⟩
  have h := hall (some "1.0.0-9007199254740993") (by simp)
  rw [rank_of_valid id (v := ⟨1, 0, 0, [.num 9007199254740993], []⟩) (by decide),
    rank_of_valid id (v := ⟨1, 0, 0, [.num 9007199254740992], []⟩) (by decide),
    WithBot.coe_le_coe] at h
  exact absurd h (by decide)

/-! ## 版が valid でない候補 -/

/-- 二つとも valid なら `newer` は投げず、`SemVer.prototype.compare` の答えで選ぶ。 -/
theorem newer_of_some {a b : α} {va vb : Version} (ha : valid (version a) = some va)
    (hb : valid (version b) = some vb) :
    newer version a b = .ok (if (va.compare vb).isGE then a else b) := by
  rw [newer, ha, hb]
  rfl

theorem newer_of_invalid {a b : α} (h : valid (version a) = none ∨ valid (version b) = none) :
    newer version a b = .error invalidVersion := by
  rcases h with h | h <;> cases hb : valid (version b) <;> cases ha : valid (version a) <;>
    simp_all [newer, gte]

/-- 畳み込みのどこかに valid でない版があれば、そこに来たときに投げる。 -/
theorem foldlM_newer_throws : ∀ (xs : List α) (acc : α),
    (valid (version acc) = none ∧ xs ≠ []) ∨ (∃ x ∈ xs, valid (version x) = none) →
    xs.foldlM (newer version) acc = .error invalidVersion
  | [], _, h => by simp at h
  | y :: ys, acc, h => by
    by_cases hbad : valid (version acc) = none ∨ valid (version y) = none
    · rw [List.foldlM_cons, newer_of_invalid version hbad]
      rfl
    · push_neg at hbad
      obtain ⟨va, hva⟩ := Option.ne_none_iff_exists'.1 hbad.1
      obtain ⟨vy, hvy⟩ := Option.ne_none_iff_exists'.1 hbad.2
      have hx : ∃ x ∈ ys, valid (version x) = none := by
        simpa [hbad.2] using h.resolve_left fun h' => hbad.1 h'.1
      rw [List.foldlM_cons, newer_of_some version hva hvy]
      exact foldlM_newer_throws ys _ (.inr hx)

/-- **二つ以上の候補のどれかの版が valid でなければ、`reduce` は投げる。** -/
theorem pickNewest_throws (L : List α) (h2 : 2 ≤ L.length)
    (hx : ∃ x ∈ L, valid (version x) = none) :
    pickNewest version L = .error invalidVersion := by
  match L, h2 with
  | x :: y :: ys, _ =>
    obtain ⟨z, hz, hzv⟩ := hx
    rcases List.mem_cons.1 hz with rfl | hz
    · exact foldlM_newer_throws version (y :: ys) z (.inl ⟨hzv, List.cons_ne_nil y ys⟩)
    · exact foldlM_newer_throws version (y :: ys) x (.inr ⟨z, hz, hzv⟩)

end CloudApi
