import Mathlib.Algebra.Group.Nat.Basic
import Mathlib.Data.List.Basic

/-!
# JavaScript の小道具

`lib/datasets.js` と `lib/packages.js` が頼る JavaScript の意味のうち、モデルに要るもの。

* handler が `next(err)` に渡すか投げる失敗 `Err`
* `toLowerCase`・`toUpperCase`
* 正規表現の `test` のうち、ここで使う形（部分文字列、末尾一致、`UUID_RE`）
* JSON から読んだ object の property 参照。自前の property が無ければ
  `Object.prototype` の property が見える
* 初期値なしの `Array.prototype.reduce`
* 数字の列を数にする `+s`：仮数 53 bit への丸め
* 空白（`\s` と `trim`）と、`split(/\s+/)`

文字列は `List Char` に直して扱う。どれも構造的な再帰なので `decide` で評価できる。
-/

namespace CloudApi

/-- handler が `next(err)` に渡すか、投げるもの。 -/
inductive Err where
  /-- 実行時の `TypeError`（`null` の property、`undefined` の `forEach` など）。 -/
  | typeError (msg : String)
  /-- restify の `ResourceNotFoundError`。 -/
  | notFound (msg : String)
  /-- backend（PAPI・IMGAPI）が返した失敗。応答の `body` に code がある。 -/
  | backend (msg : String)
  /-- backend に届かなかった client の失敗（接続の失敗など）。応答が無いので `body` も無い。 -/
  | transport (msg : String)
  deriving DecidableEq, Repr

/-- backend の client の失敗が応答の `body` を持つか。接続の失敗などには応答が無い。 -/
def Err.hasBody : Err → Bool
  | .typeError _ | .transport _ => false
  | .notFound _ | .backend _ => true

namespace Js

/-! ## `Except` の一歩 -/

/-- 具体的な入力での答えを `decide` で確かめられるように。 -/
instance instDecidableEqExcept {ε α : Type} [DecidableEq ε] [DecidableEq α] :
    DecidableEq (Except ε α)
  | .ok a, .ok b => decidable_of_iff (a = b) ⟨congrArg _, Except.ok.inj⟩
  | .error a, .error b => decidable_of_iff (a = b) ⟨congrArg _, Except.error.inj⟩
  | .ok _, .error _ => isFalse fun h => by cases h
  | .error _, .ok _ => isFalse fun h => by cases h

@[simp] theorem ok_bind {ε α β : Type} (a : α) (f : α → Except ε β) :
    (Except.ok a >>= f) = f a := rfl

@[simp] theorem error_bind {ε α β : Type} (e : ε) (f : α → Except ε β) :
    (Except.error e >>= f) = Except.error e := rfl

@[simp] theorem pure_eq_ok {ε α : Type} (a : α) : (pure a : Except ε α) = Except.ok a := rfl

/-- 成功した `>>=` は、前半も成功している。 -/
theorem bind_eq_ok {ε α β : Type} {x : Except ε α} {f : α → Except ε β} {b : β}
    (h : (x >>= f) = .ok b) : ∃ a, x = .ok a ∧ f a = .ok b := by
  cases x with
  | error e => cases h
  | ok a => exact ⟨a, rfl, h⟩

/-- `mapError` は成功をそのまま通す。 -/
@[simp] theorem mapError_eq_ok {ε ε' α : Type} {f : ε → ε'} {x : Except ε α} {a : α} :
    x.mapError f = .ok a ↔ x = .ok a := by
  cases x <;> simp [Except.mapError]

/-! ## 文字列 -/

/-- `String.prototype.toLowerCase`。method の名前にしか使わないので ASCII の範囲で足りる。 -/
def toLowerCase (s : String) : String := String.mk (s.toList.map Char.toLower)

/-- `String.prototype.toUpperCase`。 -/
def toUpperCase (s : String) : String := String.mk (s.toList.map Char.toUpper)

/-! ## 正規表現 -/

/-- `pat` が `s` のどこかに現れる。 -/
def hasInfix (pat : List Char) : List Char → Bool
  | [] => pat.isEmpty
  | c :: cs => pat.isPrefixOf (c :: cs) || hasInfix pat cs

/-- メタ文字を含まない正規表現 `/pat/` の `test(s)`。 -/
def includes (s pat : String) : Bool := hasInfix pat.toList s.toList

/-- `pat ++ rest` が現れれば、`pat` も現れる。 -/
theorem hasInfix_of_append {pat rest : List Char} :
    ∀ {cs : List Char}, hasInfix (pat ++ rest) cs = true → hasInfix pat cs = true
  | [], h => by simp_all [hasInfix]
  | c :: cs, h => by
    simp only [hasInfix, Bool.or_eq_true] at h ⊢
    rcases h with h | h
    · exact .inl (List.isPrefixOf_iff_prefix.2
        ((List.prefix_append pat rest).trans (List.isPrefixOf_iff_prefix.1 h)))
    · exact .inr (hasInfix_of_append h)

/-- `/pat$/.test(s)`。`$` は（`m` flag が無いので）入力の終わりにだけ一致する。 -/
def endsWith (s pat : String) : Bool := pat.toList.reverse.isPrefixOf s.toList.reverse

/-- 区切り文字 `sep` で分ける。`String.prototype.split` と同じく、区切りが続けば空の断片が出る。 -/
def splitOn (sep : Char) : List Char → List (List Char)
  | [] => [[]]
  | c :: cs =>
    match splitOn sep cs with
    | [] => [[c]]
    | part :: rest => if c = sep then [] :: part :: rest else (c :: part) :: rest

/-- `[a-f0-9]`。 -/
def isLowerHex (c : Char) : Bool := ('0' ≤ c && c ≤ '9') || ('a' ≤ c && c ≤ 'f')

/--
`UUID_RE.test(s)`。
`/^[a-f0-9]{8}-[a-f0-9]{4}-[a-f0-9]{4}-[a-f0-9]{4}-[a-f0-9]{12}$/` は、`-` で分けた五つの断片が
この長さで、どれも小文字の 16 進数字だけからなることと同じである。
-/
def uuidRe (s : String) : Bool :=
  let parts := splitOn '-' s.toList
  parts.map List.length == [8, 4, 4, 4, 12] && parts.all (·.all isLowerHex)

/-! ## object の property -/

/--
`JSON.parse` で作った object。自前の property の名前と、その値が truthy かどうか。
ここで読む object（設定の `bleeding_edge_*`）は値を truthiness でしか使わない。
-/
abbrev JsObject := List (String × Bool)

/-- `Object.prototype` の property。どれも関数か object なので truthy である。 -/
def objectPrototypeKeys : List String :=
  ["constructor", "hasOwnProperty", "isPrototypeOf", "propertyIsEnumerable", "toLocaleString",
    "toString", "valueOf", "__defineGetter__", "__defineSetter__", "__lookupGetter__",
    "__lookupSetter__", "__proto__"]

/-- `o[k]` が truthy か。自前の property が無ければ prototype をたどる。 -/
def JsObject.truthyAt (o : JsObject) (k : String) : Bool :=
  match o.lookup k with
  | some b => b
  | none => objectPrototypeKeys.contains k

/-- object の property を読んだ値：自前の値、`Object.prototype` から継いだ property（関数か object）、`undefined`。 -/
inductive JsProp (α : Type) where
  | own (v : α)
  | inherited (key : String)
  | absent
  deriving DecidableEq, Repr

/-- object の literal `o` の `o[k]`。自前の property が無ければ prototype をたどる。 -/
def JsProp.get {α : Type} (o : List (String × α)) (k : String) : JsProp α :=
  match o.lookup k with
  | some v => .own v
  | none => if objectPrototypeKeys.contains k then .inherited k else .absent

/-! ## `reduce` -/

/-- 初期値なしの `Array.prototype.reduce`。空の配列には `TypeError` を投げる。 -/
def reduce {α : Type} (f : α → α → Except Err α) : List α → Except Err α
  | [] => .error (.typeError "Reduce of empty array with no initial value")
  | x :: xs => xs.foldlM f x

@[simp] theorem reduce_cons {α : Type} (f : α → α → Except Err α) (x : α) (xs : List α) :
    reduce f (x :: xs) = xs.foldlM f x := rfl

/-! ## 数 -/

/-- `Number.MAX_SAFE_INTEGER`。 -/
def maxSafeInteger : Nat := 2 ^ 53 - 1

/-- `n` を 53 bit に収めるために落とす bit の数。一回ごとに `n` は半分になるので、fuel は `n` で足りる。 -/
def excessBits : (fuel n : Nat) → Nat
  | 0, _ => 0
  | fuel + 1, n => if n < 2 ^ 53 then 0 else excessBits fuel (n / 2) + 1

/-- `Infinity` を表す `2^1024`：どの有限の数よりも大きく、自分とだけ等しい。 -/
def infinity : Nat := 2 ^ 1024

/--
`+s`：値が `n` の十進の数字の列 `s` を JavaScript の数にしたもの。仮数 53 bit に、偶数への
丸めで近づける。`2^1024` 以上に丸まれば `Infinity`。整数しか現れないので、値を自然数で持つ。
丸めた仮数 `q` は `2^52` 以上 `2^53` 以下なので、`q * 2^s` が `2^1024` に届くのは
`s` が 971 を超えるか、971 で `q` が `2^53` に繰り上がったときである。
-/
def toDouble (n : Nat) : Nat :=
  let s := excessBits n n
  if s = 0 then n
  else
    let q := n / 2 ^ s
    let r := n % 2 ^ s
    let q := if 2 ^ (s - 1) < r || (r = 2 ^ (s - 1) && q % 2 = 1) then q + 1 else q
    if 971 < s || (s = 971 && q = 2 ^ 53) then infinity else q * 2 ^ s

/-- `2^53` より小さい数は、数にしても変わらない。 -/
theorem toDouble_of_lt {n : Nat} (h : n < 2 ^ 53) : toDouble n = n := by
  have hs : excessBits n n = 0 := by
    cases n with
    | zero => rfl
    | succ k => rw [excessBits, if_pos h]
  simp only [toDouble, hs, if_true]

/-- `2^53 + 1` は `2^53` と `2^53 + 2` のちょうど中ほどにあり、偶数の側の `2^53` に丸まる。 -/
example : toDouble 9007199254740993 = 9007199254740992 := by decide

/-! ## 空白 -/

/-- 正規表現の `\s` と `String.prototype.trim` の空白：WhiteSpace と LineTerminator。 -/
def isJsSpace (c : Char) : Bool :=
  let n := c.toNat
  (9 ≤ n && n ≤ 13) || n == 32 || n == 0xa0 || n == 0x1680 || (0x2000 ≤ n && n ≤ 0x200a) ||
    n == 0x2028 || n == 0x2029 || n == 0x202f || n == 0x205f || n == 0x3000 || n == 0xfeff

/-- `String.prototype.trim`。 -/
def trim (cs : List Char) : List Char :=
  ((cs.dropWhile isJsSpace).reverse.dropWhile isJsSpace).reverse

/--
`s.split(/\s+/)`：空白の連なりで分ける。先頭や末尾の空白は空の断片を作り、
空の文字列は `[""]` になる。
-/
def splitWs : List Char → List (List Char)
  | [] => [[]]
  | c :: cs =>
    if isJsSpace c then
      if (cs.head?.map isJsSpace).getD false then splitWs cs else [] :: splitWs cs
    else
      match splitWs cs with
      | part :: rest => (c :: part) :: rest
      | [] => [[c]]

example : splitWs " a  b ".toList = ["".toList, "a".toList, "b".toList, "".toList] := by decide

/-- `parts.join(' ')`。 -/
def joinSpace (parts : List (List Char)) : List Char := [' '].intercalate parts

end Js

end CloudApi
