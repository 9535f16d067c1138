import CloudApi.Js
import Mathlib.Data.List.DropRight

/-!
# client の address（`app.js` の `xForwardedFor`）

HAProxy は接続の最初の要求に `X-Forwarded-For` を付ける。`xForwardedFor` は、接続の `_xff` が
まだ falsy なら、header の最後の要素から先頭の `f` と `:` を取り除いて `_xff` に置く。header が
無ければ接続の `remoteAddress` を置く。

    xff = xff.split(/\s*,\s*/).pop() || '';
    xff = xff.replace(/^(f|:)+/, '');

`/^(f|:)+/` は `::ffff:1.2.3.4` の前置きを取るが、`f` と `:` の続く限りを取るので、`::1` や
`fe80::1` のような IPv6 の address も削る。

## 示すこと

* `cleanXff_eq_specXff_iff` — 置かれる address が「最後の要素から `::ffff:` の前置きだけを
  取ったもの」に一致するのは、それが `f` でも `:` でも始まらないときに限る。
-/

namespace CloudApi

open Js

/-! ## header の最後の要素 -/

/--
`xff.split(/\s*,\s*/).pop() || ''`。区切りは `,` とその前後の空白なので、最後の要素は最後の `,` の
後ろから先頭の空白を落としたもの。`,` が無ければ全体。
-/
def popForwarded (xff : List Char) : List Char :=
  match (splitOn ',' xff).reverse with
  | [last] => last
  | last :: _ :: _ => last.dropWhile isJsSpace
  | [] => []

/-- `xff.replace(/^(f|:)+/, '')`：先頭に続く `f` と `:` をすべて取る。 -/
def stripFColon (s : List Char) : List Char := s.dropWhile fun c => c == 'f' || c == ':'

/-- header から `_xff` に置く値。 -/
def cleanXff (xff : String) : String := String.mk (stripFColon (popForwarded xff.toList))

/-! ## 接続 -/

/-- 接続のうち、この middleware が読み書きするもの。 -/
structure Conn where
  /-- `req.connection._xff`。`none` は未設定。 -/
  xff : Option String
  remoteAddress : String
  deriving DecidableEq, Repr

/-- `_xff` が truthy か。 -/
def Conn.recorded (conn : Conn) : Bool := conn.xff.any (· != "")

/-- `xForwardedFor(req, res, next)`。`header` は `req.headers['x-forwarded-for']`。 -/
def xForwardedFor (conn : Conn) (header : Option String) : Conn :=
  if conn.recorded then conn
  else
    match header.filter (· != "") with
    | some xff => { conn with xff := some (cleanXff xff) }
    | none => { conn with xff := some conn.remoteAddress }

/-! ## 置かれる address -/

/-- IPv4 を写した IPv6 の前置き。 -/
def mappedPrefix : List Char := "::ffff:".toList

/-- 仕様の言う address：最後の要素から、ちょうど `::ffff:` の前置きだけを取ったもの。 -/
def specXff (xff : String) : String :=
  let last := popForwarded xff.toList
  String.mk (if mappedPrefix.isPrefixOf last then last.drop mappedPrefix.length else last)

/-- `f` と `:` を取っても変わらないのは、`f` でも `:` でも始まらないときだけ。 -/
theorem stripFColon_eq_self_iff {s : List Char} :
    stripFColon s = s ↔ ∀ c, s.head? = some c → c ≠ 'f' ∧ c ≠ ':' := by
  rw [stripFColon, List.dropWhile_eq_self_iff]
  cases s <;> simp

/-- `::ffff:` の前置きは `f` と `:` だけからなるので、まるごと取れる。 -/
theorem stripFColon_mapped (r : List Char) : stripFColon (mappedPrefix ++ r) = stripFColon r :=
  List.dropWhile_append_of_pos (by decide)

/--
**置かれる address が、最後の要素から `::ffff:` の前置きだけを取ったものに一致するのは、
それが `f` でも `:` でも始まらないときに限る。** IPv4 の address と、それに `::ffff:` を付けた
ものは一致し、`::1` や `fe80::1` は一致しない。
-/
theorem cleanXff_eq_specXff_iff (xff : String) :
    cleanXff xff = specXff xff ↔ ∀ c, (specXff xff).toList.head? = some c → c ≠ 'f' ∧ c ≠ ':' := by
  simp only [cleanXff, specXff, String.ext_iff]
  split
  · next hpre =>
    have hsplit : mappedPrefix ++ (popForwarded xff.toList).drop mappedPrefix.length =
        popForwarded xff.toList :=
      List.prefix_iff_eq_append.1 (List.isPrefixOf_iff_prefix.1 hpre)
    rw [← hsplit, stripFColon_mapped, hsplit]
    exact stripFColon_eq_self_iff
  · exact stripFColon_eq_self_iff

/-- IPv6 の loopback `::1` は `1` として置かれる。 -/
theorem xForwardedFor_strips_ipv6_loopback :
    (xForwardedFor ⟨none, "10.0.0.2"⟩ (some "203.0.113.7, ::1")).xff = some "1" ∧
      specXff "203.0.113.7, ::1" = "::1" := by
  decide

end CloudApi
