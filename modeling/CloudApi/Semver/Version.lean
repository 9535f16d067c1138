import CloudApi.Js
import Mathlib.Data.List.Lex
import Mathlib.Data.Prod.Lex
import Mathlib.Data.Sum.Order
import Mathlib.Data.String.Basic
import Mathlib.Order.WithBot
import Mathlib.Order.Compare
import Mathlib.Order.Monotone.Basic

/-!
# 版（node-semver の `SemVer`）

`semver.valid` と `semver.gte` のモデル（node-semver 5 の `SemVer`）。`lib/packages.js` と
`lib/datasets.js` は、候補のうち一番新しい版のものを選ぶのにこの二つを使う。

## 二段に分かれる

* **コードの比較** `Version.compare`。`SemVer.prototype.compare` を写したもの：
  `compareMain`（major・minor・patch）の後に `comparePre`（prerelease の識別子を一つずつ）。
  識別子は `compareIdentifiers` が比べ、数字だけの識別子は `+a` で JavaScript の数にしてから比べる。
* **仕様の順序** `Version.key`。semver.org §11 の precedence を、Mathlib の辞書式の
  線形順序への鍵として書いたもの。build metadata は鍵に入らない。

`compare_compares` が二つを繋ぐ。数の識別子がどれも安全な整数（`Number.MAX_SAFE_INTEGER`
以下）なら、コードの比較の答えは鍵の順序での比較そのものである。`2^53` を超える prerelease の
数は丸まって等しくなりうるので、そこでは二つは食い違う。

## 数の成分

`new SemVer(v)` は 256 文字を超える版を受け付けず、major・minor・patch を `+m[1]` で数にし、
`MAX_SAFE_INTEGER` を超えれば投げる（`semver.parse` はそれを捕まえて `null` を返す）。
prerelease の数字だけの識別子は、`MAX_SAFE_INTEGER` より小さければ数に、そうでなければ
文字列のまま持つ。どちらも比べるときは `compareIdentifiers` が数にする。
モデルは識別子の十進の値をそのまま持ち、比べるときに `Js.toDouble` で丸める。

`semver.valid` は整形した版の文字列を返し、`semver.gte` はそれを読み直す。整形は数を
`String` にし、prerelease を `.` でつなぐので、読み直した版は build を落とす以外は同じで、
比較は build を見ない。モデルでは読んだ `Version` をそのまま渡す。
-/

namespace CloudApi.Semver

open Js

/-- prerelease の識別子。数字だけのものは `+id` で数になる。 -/
inductive Ident where
  | num (n : Nat)
  | alnum (s : String)
  deriving DecidableEq, Repr

/-- `new SemVer(v)` の中身。 -/
structure Version where
  major : Nat
  minor : Nat
  patch : Nat
  prerelease : List Ident
  build : List String
  deriving DecidableEq, Repr

/-! ## `semver.valid` -/

def isDigit (c : Char) : Bool := '0' ≤ c && c ≤ '9'

/-- `[0-9A-Za-z-]`。 -/
def isIdentChar (c : Char) : Bool :=
  isDigit c || ('a' ≤ c && c ≤ 'z') || ('A' ≤ c && c ≤ 'Z') || c == '-'

def digitsValue (cs : List Char) : Nat :=
  cs.foldl (fun n c => 10 * n + (c.toNat - '0'.toNat)) 0

/-- `NUMERICIDENTIFIER`：`0|[1-9]\d*`。 -/
def numericIdentifier : List Char → Option Nat
  | [] => none
  | ['0'] => some 0
  | c :: cs => if c != '0' && (c :: cs).all isDigit then some (digitsValue (c :: cs)) else none

/-- `PRERELEASEIDENTIFIER`：数か、数字でない文字を含む `[0-9A-Za-z-]+`。 -/
def prereleaseIdentifier (cs : List Char) : Option Ident :=
  if cs.all isDigit then (numericIdentifier cs).map .num
  else if cs.all isIdentChar then some (.alnum (String.mk cs))
  else none

/-- `BUILDIDENTIFIER`：`[0-9A-Za-z-]+`。 -/
def buildIdentifier (cs : List Char) : Option String :=
  if !cs.isEmpty && cs.all isIdentChar then some (String.mk cs) else none

/-- `MAINVERSION`：`.` で分けた三つの数。 -/
def mainVersion (cs : List Char) : Option (Nat × Nat × Nat) :=
  match splitOn '.' cs with
  | [a, b, c] => do pure (← numericIdentifier a, ← numericIdentifier b, ← numericIdentifier c)
  | _ => none

/-- `-` に続く prerelease。無ければ空。 -/
def prereleasePart : List Char → Option (List Ident)
  | [] => some []
  | '-' :: p => (splitOn '.' p).mapM prereleaseIdentifier
  | _ => none

/-- `+` に続く build。無ければ空。 -/
def buildPart : List Char → Option (List String)
  | [] => some []
  | '+' :: b => (splitOn '.' b).mapM buildIdentifier
  | _ => none

/-- `MAX_LENGTH`：これより長い版の文字列は読まない。 -/
def maxLength : Nat := 256

/--
`semver.parse`（と `new SemVer`）：長さを確かめ、厳密な形 `FULL`（`v?`、`MAINVERSION`、
`-` に続く prerelease、`+` に続く build）で読み、major・minor・patch が `MAX_SAFE_INTEGER` を
超えないことを確かめる。main に `-` も `+` も現れず、prerelease に `+` は現れないので、
最初の `+` と、その前の最初の `-` で切ってよい。
-/
def parseChars (s : List Char) : Option Version :=
  if maxLength < s.length then none
  else
    let cs := match s with
      | 'v' :: r => r
      | r => r
    let (mainPre, build) := cs.span (· != '+')
    let (main, pre) := mainPre.span (· != '-')
    do
      let (major, minor, patch) ← mainVersion main
      if maxSafeInteger < major || maxSafeInteger < minor || maxSafeInteger < patch then none
      let prerelease ← prereleasePart pre
      let build ← buildPart build
      pure { major, minor, patch, prerelease, build }

def parse (s : String) : Option Version := parseChars s.toList

/-- `semver.valid(x)`。`x` が `undefined` なら `null`。 -/
def valid : Option String → Option Version
  | some s => parse s
  | none => none

example : valid (some "1.0") = none := by decide
example : valid (some "v1.2.3-rc.1+b7") = some ⟨1, 2, 3, [.alnum "rc", .num 1], ["b7"]⟩ := by decide
example : valid (some "9007199254740992.0.0") = none := by decide

/-! ## `semver.compare` と `semver.gte` -/

/--
`compareIdentifiers`：数字だけのものどうしは `+a`・`+b` で数にして比べ、数は英数字より前、
英数字どうしは文字列として。
-/
def compareIdentifiers : Ident → Ident → Ordering
  | .num a, .num b => compare (toDouble a) (toDouble b)
  | .num _, .alnum _ => .lt
  | .alnum _, .num _ => .gt
  | .alnum a, .alnum b => compare a b

/-- `comparePre` の `do … while` の部分。 -/
def comparePreLoop : List Ident → List Ident → Ordering
  | [], [] => .eq
  | _ :: _, [] => .gt
  | [], _ :: _ => .lt
  | a :: as, b :: bs => if a = b then comparePreLoop as bs else compareIdentifiers a b

/-- `SemVer.prototype.comparePre`：prerelease を持たない方が大きい。 -/
def comparePre : List Ident → List Ident → Ordering
  | [], [] => .eq
  | [], _ :: _ => .gt
  | _ :: _, [] => .lt
  | p, q => comparePreLoop p q

/-- `SemVer.prototype.compareMain`：major・minor・patch を `compareIdentifiers` で。 -/
def compareMain (v w : Version) : Ordering :=
  (compareIdentifiers (.num v.major) (.num w.major)).then
    ((compareIdentifiers (.num v.minor) (.num w.minor)).then
      (compareIdentifiers (.num v.patch) (.num w.patch)))

/-- `SemVer.prototype.compare`：`this.compareMain(other) || this.comparePre(other)`。 -/
def Version.compare (v w : Version) : Ordering :=
  (compareMain v w).then (comparePre v.prerelease w.prerelease)

/-- `new SemVer(null)` が投げる `TypeError`。 -/
def invalidVersion : Err := .typeError "Invalid Version: null"

/-- `semver.gte(a, b)`：`compare(a, b) >= 0`。`null` は `new SemVer` が受け付けず、投げる。 -/
def gte : Option Version → Option Version → Except Err Bool
  | some v, some w => .ok (v.compare w).isGE
  | _, _ => .error invalidVersion

/-! ## 安全な整数 -/

/-- 数の識別子が `MAX_SAFE_INTEGER` 以下：JavaScript の数にしても値が変わらない。 -/
def Ident.safe : Ident → Bool
  | .num n => n ≤ maxSafeInteger
  | .alnum _ => true

/-- 版の数がどれも安全な整数。`semver.valid` を通った版の major・minor・patch はいつもそうである。 -/
def Version.safe (v : Version) : Bool :=
  v.major ≤ maxSafeInteger && v.minor ≤ maxSafeInteger && v.patch ≤ maxSafeInteger &&
    v.prerelease.all Ident.safe

theorem toDouble_of_le_maxSafe {n : Nat} (h : n ≤ maxSafeInteger) : toDouble n = n :=
  toDouble_of_lt (by unfold maxSafeInteger at h; omega)

/-! ## semver.org の precedence -/

/-- 識別子の鍵。数は英数字より前（`inl < inr`）、英数字は文字の順。 -/
def Ident.key : Ident → ℕ ⊕ₗ String
  | .num n => toLex (.inl n)
  | .alnum s => toLex (.inr s)

/-- prerelease の鍵。prerelease の無い版は、どの prerelease よりも大きい。 -/
def preKey (p : List Ident) : WithTop (List (ℕ ⊕ₗ String)) :=
  if p = [] then ⊤ else ↑(p.map Ident.key)

/-- semver.org §11 の precedence：major、minor、patch、prerelease の辞書式。build は見ない。 -/
def Version.key (v : Version) : ℕ ×ₗ ℕ ×ₗ ℕ ×ₗ WithTop (List (ℕ ⊕ₗ String)) :=
  toLex (v.major, toLex (v.minor, toLex (v.patch, preKey v.prerelease)))

/-! ## コードの比較は precedence の比較 -/

/-- 線形順序の `compare` は、その順序で比べた答えである。 -/
theorem compares_compare {α : Type*} [LinearOrder α] (a b : α) : (compare a b).Compares a b :=
  cmp_eq_compare a b ▸ cmp_compares a b

theorem then_assoc (a b c : Ordering) : (a.then b).then c = a.then (b.then c) := by
  cases a <;> rfl

theorem isGE_iff_ne_lt (o : Ordering) : o.isGE = true ↔ o ≠ .lt := by
  cases o <;> decide

/-- 辞書式の対では、`then` で繋いだ比較がそのまま対の比較になる。 -/
theorem compares_then_toLex {α β : Type*} [LinearOrder α] [LinearOrder β] {o₁ o₂ : Ordering}
    {a a' : α} {b b' : β} (h₁ : o₁.Compares a a') (h₂ : o₂.Compares b b') :
    (o₁.then o₂).Compares (toLex (a, b)) (toLex (a', b')) := by
  cases o₁
  · exact (Prod.Lex.lt_iff _ _).2 (.inl h₁)
  · cases h₁
    cases o₂
    · exact (Prod.Lex.lt_iff _ _).2 (.inr ⟨rfl, h₂⟩)
    · exact congrArg _ (congrArg _ h₂)
    · exact (Prod.Lex.lt_iff _ _).2 (.inr ⟨rfl, h₂⟩)
  · exact (Prod.Lex.lt_iff _ _).2 (.inl h₁)

theorem Ident.key_injective : Function.Injective Ident.key := by
  intro a b h
  cases a <;> cases b <;> simp_all [Ident.key]

/-- 安全な整数どうしなら、数にして比べても値のまま比べても同じ。 -/
theorem compareIdentifiers_num {m n : Nat} (hm : m ≤ maxSafeInteger) (hn : n ≤ maxSafeInteger) :
    compareIdentifiers (.num m) (.num n) = compare m n := by
  rw [compareIdentifiers, toDouble_of_le_maxSafe hm, toDouble_of_le_maxSafe hn]

theorem compareIdentifiers_compares {a b : Ident} (ha : a.safe) (hb : b.safe) :
    (compareIdentifiers a b).Compares a.key b.key := by
  cases a with
  | num m => cases b with
    | num n =>
      rw [compareIdentifiers_num (by simpa [Ident.safe] using ha) (by simpa [Ident.safe] using hb)]
      exact Sum.Lex.inl_strictMono.compares.2 (compares_compare m n)
    | alnum t => exact Sum.Lex.inl_lt_inr m t
  | alnum s => cases b with
    | num n => exact Sum.Lex.inl_lt_inr n s
    | alnum t => exact Sum.Lex.inr_strictMono.compares.2 (compares_compare s t)

/-- 識別子の列の比較は、鍵の列の辞書式の比較。短い方が先に尽きれば小さい。 -/
theorem comparePreLoop_compares : ∀ {p q : List Ident}, p.all Ident.safe → q.all Ident.safe →
    (comparePreLoop p q).Compares (p.map Ident.key) (q.map Ident.key)
  | [], [], _, _ => rfl
  | _ :: _, [], _, _ => List.nil_lt_cons _ _
  | [], _ :: _, _, _ => List.nil_lt_cons _ _
  | a :: as, b :: bs, hp, hq => by
    simp only [List.all_cons, Bool.and_eq_true] at hp hq
    by_cases h : a = b
    · subst h
      have ih := comparePreLoop_compares hp.2 hq.2
      simp only [comparePreLoop, if_pos rfl, List.map_cons]
      cases hc : comparePreLoop as bs <;> rw [hc] at ih
      · exact List.Lex.cons ih
      · exact congrArg _ ih
      · exact List.Lex.cons ih
    · have hk := compareIdentifiers_compares hp.1 hq.1
      simp only [comparePreLoop, if_neg h, List.map_cons]
      cases hc : compareIdentifiers a b <;> rw [hc] at hk
      · exact List.Lex.rel hk
      · exact absurd (Ident.key_injective hk) h
      · exact List.Lex.rel hk

theorem comparePre_compares {p q : List Ident} (hp : p.all Ident.safe) (hq : q.all Ident.safe) :
    (comparePre p q).Compares (preKey p) (preKey q) := by
  match p, q, hp, hq with
  | [], [], _, _ => rfl
  | [], _ :: _, _, _ => exact WithTop.coe_lt_top _
  | _ :: _, [], _, _ => exact WithTop.coe_lt_top _
  | a :: as, b :: bs, hp, hq =>
    simpa [comparePre, preKey] using
      WithTop.coe_strictMono.compares.2 (comparePreLoop_compares hp hq)

/-- **安全な整数だけの版どうしなら、`SemVer.prototype.compare` は semver.org の precedence で比べる。** -/
theorem compare_compares {v w : Version} (hv : v.safe) (hw : w.safe) :
    (v.compare w).Compares v.key w.key := by
  simp only [Version.safe, Bool.and_eq_true, decide_eq_true_eq] at hv hw
  rw [Version.compare, compareMain, compareIdentifiers_num hv.1.1.1 hw.1.1.1,
    compareIdentifiers_num hv.1.1.2 hw.1.1.2, compareIdentifiers_num hv.1.2 hw.1.2,
    then_assoc, then_assoc]
  exact compares_then_toLex (compares_compare _ _) (compares_then_toLex (compares_compare _ _)
    (compares_then_toLex (compares_compare _ _) (comparePre_compares hv.2 hw.2)))

/-- `semver.gte` は、二つとも安全な整数だけの版なら precedence の `≥` である。 -/
theorem gte_some {v w : Version} (hv : v.safe) (hw : w.safe) :
    gte (some v) (some w) = .ok (decide (w.key ≤ v.key)) := by
  simp only [gte, Except.ok.injEq]
  exact Bool.eq_iff_iff.2
    ((isGE_iff_ne_lt _).trans ((compare_compares hv hw).ne_lt.trans decide_eq_true_iff.symm))

end CloudApi.Semver
