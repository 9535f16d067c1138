import CloudApi.Semver.Version

/-!
# 版の範囲（node-semver の `Range` と `satisfies`）

`X-Api-Version` は版の範囲である（`6.5`、`~7.0`、`>=6.5.0`、`*` など）。
`lib/datasets.js` は `semver.satisfies('6.5.0', v)`、`semver.satisfies('7.0.0', v)`、
`semver.satisfies('7.1.0', v)` で field を出し分ける。

## 仕組み

node-semver 5 の `Range` は、範囲の文字列を正規表現の置き換えで比較子の列に直してから読む。
モデルも同じ順に、文字の列の上で置き換える。

1. `||` で分け、前後の空白を落とす。
2. `parseRange`：hyphen（`1.2 - 2.3.4`）を比較子に直し、演算子の後の空白（`COMPARATORTRIM`）と
   `~`・`^` の後の空白を詰め、空白で語に分ける。
3. 語ごとの `parseComparator`：`^`、`~`、x-range（`1.x`、`1.2.*`、成分の省略）をこの順に直し、
   最初の `*` を消す。
4. 直した語を空白で分け、それぞれを `new Comparator` が演算子と版として読む。
   版は `new SemVer` が読むので、長すぎる版や `MAX_SAFE_INTEGER` を超える数では投げる。

どこかで投げれば `satisfies` は `false` を返す。

## 正規表現の読み方

語ごとの正規表現（`XRANGE`・`TILDE`・`CARET`・`COMPARATOR`）は両端が固定で、語に空白は無い。
`[v=\s]*` を読み飛ばした後の本体は、最初の `+` と、その前の最初の `-` で切れば一通りにしか
読めない。`COMPARATORTRIM` は固定されない大域の置き換えで、前から順に一致を探す。一致の長さは、
正規表現が試す順（`LOOSEPLAIN` が先、選択肢は左から、繰り返しは長い方から）で最初に成功する
ものである。一致の後ろに続く形が無いので、どの部分も、局所的に最初に一致した選択肢で決まる。

`+M + 1` は JavaScript の数の足し算だが、結果が `MAX_SAFE_INTEGER` を超えれば、どう丸まっても
その比較子の版を `new SemVer` が受け付けない。それ以下では足し算は正確である。

## 停止性

前から読む大域の置き換え（`comparatorTrim`・`tildeTrim`・`caretTrim`）は、一致のたびに一文字
以上を読むので、残りの長さを fuel にする。`(?:\.ID)*` の繰り返しも同じ。他は構造的な再帰である。
-/

namespace CloudApi.Semver

open Js

/-! ## 比較子 -/

/-- 比較子の演算子。`''` と `'='` はどちらも `eq`。 -/
inductive Op where
  | lt | le | gt | ge | eq
  deriving DecidableEq, Repr

/-- `new Comparator(comp)`。空の比較子は何でも通す（`ANY`）。 -/
inductive Comparator where
  | any
  | cmp (op : Op) (semver : Version)
  deriving DecidableEq, Repr

/-- `Comparator.prototype.test`。 -/
def Comparator.test (v : Version) : Comparator → Bool
  | .any => true
  | .cmp op w =>
    match op with
    | .lt => (v.compare w).isLT
    | .le => (v.compare w).isLE
    | .gt => (v.compare w).isGT
    | .ge => (v.compare w).isGE
    | .eq => (v.compare w).isEq

/-- `GTLT`：`((?:<|>)?=?)`。長い方から読む。`none` は空の演算子。 -/
def gtlt : List Char → Option Op × List Char
  | '<' :: '=' :: r => (some .le, r)
  | '>' :: '=' :: r => (some .ge, r)
  | '<' :: r => (some .lt, r)
  | '>' :: r => (some .gt, r)
  | '=' :: r => (some .eq, r)
  | r => (none, r)

/-- 演算子の文字。 -/
def Op.text : Option Op → List Char
  | some .lt => ['<']
  | some .le => ['<', '=']
  | some .gt => ['>']
  | some .ge => ['>', '=']
  | some .eq => ['=']
  | none => []

/-- `new Comparator(comp)`：`^((?:<|>)?=?)\s*(FULLPLAIN)$|^$`。版は `new SemVer` が読む。 -/
def newComparator (comp : List Char) : Option Comparator :=
  if comp = [] then some .any
  else
    let (op, rest) := gtlt comp
    (parseChars rest).map (.cmp (op.getD .eq))

/-! ## 部分的な版 -/

/-- `XRANGEIDENTIFIER`：`0|[1-9]\d*|x|X|\*`。 -/
def isXRangeId (cs : List Char) : Bool :=
  cs = ['x'] || cs = ['X'] || cs = ['*'] || (numericIdentifier cs).isSome

/-- `isX(id)`：無いか空か、`x`・`X`・`*`。 -/
def isX : Option (List Char) → Bool
  | none => true
  | some id => id = [] || id = ['x'] || id = ['X'] || id = ['*']

/-- `XRANGEPLAIN` の捕まえた組：`M`・`m`・`p`（無ければ `none`）と、`-` の後の prerelease。 -/
structure XParts where
  M : List Char
  m : Option (List Char)
  p : Option (List Char)
  pr : Option (List Char)

/-- `[v=\s]`。 -/
def isLoosePrefix (c : Char) : Bool := c == 'v' || c == '=' || isJsSpace c

/-- 両端を固定した `XRANGEPLAIN` の、`[v=\s]*` の後の本体。 -/
def xrangeBody (body : List Char) : Option XParts :=
  let (mainPre, build) := body.span (· != '+')
  let (main, pre) := mainPre.span (· != '-')
  match splitOn '.' main, pre, build with
  | [a], [], [] => if isXRangeId a then some ⟨a, none, none, none⟩ else none
  | [a, b], [], [] => if isXRangeId a && isXRangeId b then some ⟨a, some b, none, none⟩ else none
  | [a, b, c], pre, build =>
    if isXRangeId a && isXRangeId b && isXRangeId c && (prereleasePart pre).isSome &&
        (buildPart build).isSome
    then some ⟨a, some b, some c, pre.tail?.filter (· ≠ [])⟩
    else none
  | _, _, _ => none

/-- 両端を固定した `XRANGEPLAIN`。 -/
def xrangePlain (cs : List Char) : Option XParts := xrangeBody (cs.dropWhile isLoosePrefix)

/-- `+n + 1` を `String` にしたもの。 -/
def succText (n : List Char) : List Char := (toString (digitsValue n + 1)).toList

/-- `pr.charAt(0) !== '-'` なら `-` を前に付けた prerelease。 -/
def prText : Option (List Char) → List Char
  | some pr => if pr.head? = some '-' then pr else '-' :: pr
  | none => []

/-! ## 語ごとの置き換え -/

/-- `replaceXRange(comp)`：`^GTLT\s*XRANGEPLAIN$` に一致する語の x を比較子に直す。 -/
def replaceXRange (comp : List Char) : List Char :=
  let (op, rest) := gtlt comp
  match xrangePlain rest with
  | none => comp
  | some x =>
    let xM := isX (some x.M)
    let xm := xM || isX x.m
    let xp := xm || isX x.p
    let op := if op = some .eq && xp then none else op
    let m := if xm then ['0'] else x.m.getD []
    if xM then
      if op = some .gt || op = some .lt then "<0.0.0".toList else ['*']
    else if op.isSome && xp then
      match op with
      | some .gt =>
        if xm then ">=".toList ++ succText x.M ++ ".0.0".toList
        else ">=".toList ++ x.M ++ ['.'] ++ succText m ++ ".0".toList
      | some .le =>
        if xm then ['<'] ++ succText x.M ++ ".0.0".toList
        else ['<'] ++ x.M ++ ['.'] ++ succText m ++ ".0".toList
      | op => Op.text op ++ x.M ++ ['.'] ++ m ++ ".0".toList
    else if xm then ">=".toList ++ x.M ++ ".0.0 <".toList ++ succText x.M ++ ".0.0".toList
    else if xp then
      ">=".toList ++ x.M ++ ['.'] ++ m ++ ".0 <".toList ++ x.M ++ ['.'] ++ succText m ++ ".0".toList
    else comp

/-- `replaceTilde(comp)`：`~M.m.p` は `>=M.m.p <M.(m+1).0`。`~>` も `~` と同じ。 -/
def replaceTilde (comp : List Char) : List Char :=
  match comp with
  | '~' :: r =>
    let r := match r with
      | '>' :: r => r
      | r => r
    match xrangePlain r with
    | none => comp
    | some x =>
      let m := x.m.getD []
      if isX (some x.M) then []
      else if isX x.m then ">=".toList ++ x.M ++ ".0.0 <".toList ++ succText x.M ++ ".0.0".toList
      else if isX x.p then
        ">=".toList ++ x.M ++ ['.'] ++ m ++ ".0 <".toList ++ x.M ++ ['.'] ++ succText m ++ ".0".toList
      else
        ">=".toList ++ x.M ++ ['.'] ++ m ++ ['.'] ++ x.p.getD [] ++ prText x.pr ++ " <".toList ++
          x.M ++ ['.'] ++ succText m ++ ".0".toList
  | _ => comp

/-- `replaceCaret(comp)`：左端の 0 でない成分が上がる手前まで。 -/
def replaceCaret (comp : List Char) : List Char :=
  match comp with
  | '^' :: r =>
    match xrangePlain r with
    | none => comp
    | some x =>
      let m := x.m.getD []
      let p := x.p.getD []
      if isX (some x.M) then []
      else if isX x.m then ">=".toList ++ x.M ++ ".0.0 <".toList ++ succText x.M ++ ".0.0".toList
      else if isX x.p then
        if x.M = ['0'] then
          ">=".toList ++ x.M ++ ['.'] ++ m ++ ".0 <".toList ++ x.M ++ ['.'] ++ succText m ++ ".0".toList
        else ">=".toList ++ x.M ++ ['.'] ++ m ++ ".0 <".toList ++ succText x.M ++ ".0.0".toList
      else
        let lo := ">=".toList ++ x.M ++ ['.'] ++ m ++ ['.'] ++ p ++ prText x.pr
        if x.M = ['0'] then
          if m = ['0'] then lo ++ " <".toList ++ x.M ++ ['.'] ++ m ++ ['.'] ++ succText p
          else lo ++ " <".toList ++ x.M ++ ['.'] ++ succText m ++ ".0".toList
        else lo ++ " <".toList ++ succText x.M ++ ".0.0".toList
  | _ => comp

/-- `(<|>)?=?\s*\*` がこの位置で一致すれば、その後ろ。演算子と `=` は長い方から読む。 -/
def starAt (cs : List Char) : Option (List Char) :=
  let r := match cs with
    | '<' :: r | '>' :: r => r
    | r => r
  let r := match r with
    | '=' :: r => r
    | r => r
  match r.dropWhile isJsSpace with
  | '*' :: rest => some rest
  | _ => none

/-- `STAR` の最初の一致だけを消す（`g` flag が無い）。 -/
def replaceFirstStar : List Char → List Char
  | [] => []
  | c :: cs =>
    match starAt (c :: cs) with
    | some rest => rest
    | none => c :: replaceFirstStar cs

/-- `comp.trim().split(/\s+/).map(f).join(' ')`。 -/
def mapWords (f : List Char → List Char) (comp : List Char) : List Char :=
  joinSpace ((splitWs (trim comp)).map f)

/-- `parseComparator(comp)`：`^`、`~`、x-range の順に直し、最初の `*` を消す。 -/
def parseComparator (comp : List Char) : List Char :=
  replaceFirstStar (trim (mapWords replaceXRange (mapWords replaceTilde (mapWords replaceCaret comp))))

/-! ## 範囲の置き換え -/

/-- `HYPHENRANGE`：`^\s*(XRANGEPLAIN)\s+-\s+(XRANGEPLAIN)\s*$`。捕まえた二つの文字と組。 -/
def hyphenParts (range : List Char) : Option (List Char × XParts × List Char × XParts) :=
  let (pre, rest) := range.span isLoosePrefix
  let (body₁, rest) := rest.span (! isJsSpace ·)
  let (ws₁, rest) := rest.span isJsSpace
  match rest with
  | '-' :: rest =>
    let (ws₂, upper) := rest.span isJsSpace
    let body₂ := upper.dropWhile isLoosePrefix
    if ws₁.isEmpty || ws₂.isEmpty || body₂.any isJsSpace then none
    else do
      let x₁ ← xrangeBody body₁
      let x₂ ← xrangeBody body₂
      pure (pre ++ body₁, x₁, upper, x₂)
  | _ => none

/-- `hyphenReplace`：`A - B` は `>=A <=B`。省略した成分は x-range と同じに広げる。 -/
def hyphenReplace (fromText : List Char) (f : XParts) (toText : List Char) (t : XParts) :
    List Char :=
  let lo :=
    if isX (some f.M) then []
    else if isX f.m then ">=".toList ++ f.M ++ ".0.0".toList
    else if isX f.p then ">=".toList ++ f.M ++ ['.'] ++ f.m.getD [] ++ ".0".toList
    else ">=".toList ++ fromText
  let hi :=
    if isX (some t.M) then []
    else if isX t.m then ['<'] ++ succText t.M ++ ".0.0".toList
    else if isX t.p then ['<'] ++ t.M ++ ['.'] ++ succText (t.m.getD []) ++ ".0".toList
    else match t.pr with
      | some pr => "<=".toList ++ t.M ++ ['.'] ++ t.m.getD [] ++ ['.'] ++ t.p.getD [] ++ ['-'] ++ pr
      | none => "<=".toList ++ toText
  trim (lo ++ [' '] ++ hi)

/-! ### `COMPARATORTRIM` の一致の長さ -/

/-- `[a-zA-Z-]`。 -/
def isAlphaDash (c : Char) : Bool := ('a' ≤ c && c ≤ 'z') || ('A' ≤ c && c ≤ 'Z') || c == '-'

/-- `XRANGEIDENTIFIER` が先頭で一致する長さ：`0`、`[1-9]\d*`、`x`・`X`・`*` の順に試す。 -/
def xrIdLen : List Char → Option Nat
  | '0' :: _ => some 1
  | c :: cs =>
    if isDigit c then some (1 + (cs.takeWhile isDigit).length)
    else if c == 'x' || c == 'X' || c == '*' then some 1 else none
  | [] => none

/-- `PRERELEASEIDENTIFIER`：`0`、`[1-9]\d*`、`\d*[a-zA-Z-][a-zA-Z0-9-]*` の順に試す。 -/
def preIdLen : List Char → Option Nat
  | '0' :: _ => some 1
  | c :: cs =>
    if isDigit c then some (1 + (cs.takeWhile isDigit).length)
    else if isAlphaDash c then some (1 + (cs.takeWhile isIdentChar).length) else none
  | [] => none

/-- `PRERELEASEIDENTIFIERLOOSE`：`[0-9]+`、`\d*[a-zA-Z-][a-zA-Z0-9-]*` の順に試す。 -/
def looseIdLen : List Char → Option Nat
  | c :: cs =>
    if isDigit c then some (1 + (cs.takeWhile isDigit).length)
    else if isAlphaDash c then some (1 + (cs.takeWhile isIdentChar).length) else none
  | [] => none

/-- `BUILDIDENTIFIER`：`[0-9A-Za-z-]+`。 -/
def buildIdLen (cs : List Char) : Option Nat :=
  let n := (cs.takeWhile isIdentChar).length
  if n = 0 then none else some n

/-- `(?:\.ID)*` を読めるだけ読んだ長さ。 -/
def dotsLen (idLen : List Char → Option Nat) : (fuel : Nat) → List Char → Nat
  | 0, _ => 0
  | fuel + 1, '.' :: cs =>
    match idLen cs with
    | some n => 1 + n + dotsLen idLen fuel (cs.drop n)
    | none => 0
  | _ + 1, _ => 0

/-- `ID(?:\.ID)*` の長さ。 -/
def dottedLen (idLen : List Char → Option Nat) (cs : List Char) : Option Nat :=
  (idLen cs).map fun n => n + dotsLen idLen cs.length (cs.drop n)

/-- `BUILD?`：`+` に続く build を読めれば、その長さ。 -/
def buildLen : List Char → Nat
  | '+' :: r => ((dottedLen buildIdLen r).map (1 + ·)).getD 0
  | _ => 0

/-- `PRERELEASE?`（`-` が要る）。 -/
def preLen : List Char → Nat
  | '-' :: r => ((dottedLen preIdLen r).map (1 + ·)).getD 0
  | _ => 0

/-- `PRERELEASELOOSE?`：`-?` を取って読めなければ、`-` 自身を識別子として読み直す。 -/
def loosePreLen : List Char → Nat
  | '-' :: r =>
    match dottedLen looseIdLen r with
    | some n => 1 + n
    | none => (dottedLen looseIdLen ('-' :: r)).getD 0
  | cs => (dottedLen looseIdLen cs).getD 0

/-- `XRANGEPLAIN` の本体が先頭で一致する長さ。 -/
def xrangeLen (cs : List Char) : Option Nat := do
  let n₁ ← xrIdLen cs
  match cs.drop n₁ with
  | '.' :: r =>
    match xrIdLen r with
    | none => pure n₁
    | some n₂ =>
      match r.drop n₂ with
      | '.' :: r' =>
        match xrIdLen r' with
        | none => pure (n₁ + 1 + n₂)
        | some n₃ =>
          let r'' := r'.drop n₃
          let np := preLen r''
          pure (n₁ + 1 + n₂ + 1 + n₃ + np + buildLen (r''.drop np))
      | _ => pure (n₁ + 1 + n₂)
  | _ => pure n₁

/-- `LOOSEPLAIN` の本体（`\d+\.\d+\.\d+`、prerelease、build）が先頭で一致する長さ。 -/
def looseLen (cs : List Char) : Option Nat :=
  let d₁ := (cs.takeWhile isDigit).length
  match cs.drop d₁ with
  | '.' :: r =>
    let d₂ := (r.takeWhile isDigit).length
    match r.drop d₂ with
    | '.' :: r' =>
      let d₃ := (r'.takeWhile isDigit).length
      if d₁ = 0 || d₂ = 0 || d₃ = 0 then none
      else
        let r'' := r'.drop d₃
        let np := loosePreLen r''
        some (d₁ + 1 + d₂ + 1 + d₃ + np + buildLen (r''.drop np))
    | _ => none
  | _ => none

/-- `(LOOSEPLAIN|XRANGEPLAIN)` が先頭で一致する長さ。どちらも `[v=\s]*` から始まる。 -/
def plainLen (cs : List Char) : Option Nat :=
  let n := (cs.takeWhile isLoosePrefix).length
  let body := cs.drop n
  (looseLen body <|> xrangeLen body).map (n + ·)

/-- `range.replace(COMPARATORTRIM, '$1$2$3')`：演算子と版の間の空白を詰める。 -/
def comparatorTrim : (fuel : Nat) → List Char → List Char
  | 0, cs => cs
  | _ + 1, [] => []
  | fuel + 1, c :: cs =>
    let (ws, r₁) := (c :: cs).span isJsSpace
    let (op, r₂) := gtlt r₁
    let r₃ := r₂.dropWhile isJsSpace
    match plainLen r₃ with
    | some n => ws ++ Op.text op ++ r₃.take n ++ comparatorTrim fuel (r₃.drop n)
    | none => c :: comparatorTrim fuel cs

/-- `range.replace(TILDETRIM, '$1~')`：`~`（と `~>`）の後の空白を詰める。 -/
def tildeTrim : (fuel : Nat) → List Char → List Char
  | 0, cs => cs
  | _ + 1, [] => []
  | fuel + 1, c :: cs =>
    let (ws, r₁) := (c :: cs).span isJsSpace
    match r₁ with
    | '~' :: r₂ =>
      let r₃ := match r₂ with
        | '>' :: r => r
        | r => r
      let (ws₂, r₄) := r₃.span isJsSpace
      if ws₂.isEmpty then c :: tildeTrim fuel cs else ws ++ ['~'] ++ tildeTrim fuel r₄
    | _ => c :: tildeTrim fuel cs

/-- `range.replace(CARETTRIM, '$1^')`：`^` の後の空白を詰める。 -/
def caretTrim : (fuel : Nat) → List Char → List Char
  | 0, cs => cs
  | _ + 1, [] => []
  | fuel + 1, c :: cs =>
    let (ws, r₁) := (c :: cs).span isJsSpace
    match r₁ with
    | '^' :: r₂ =>
      let (ws₂, r₃) := r₂.span isJsSpace
      if ws₂.isEmpty then c :: caretTrim fuel cs else ws ++ ['^'] ++ caretTrim fuel r₃
    | _ => c :: caretTrim fuel cs

/-! ## 範囲を読む -/

/-- `Range.prototype.parseRange(range)`：比較子の列。どれかの比較子が読めなければ投げる。 -/
def parseRange (range : List Char) : Option (List Comparator) :=
  let r := trim range
  let r := match hyphenParts r with
    | some (f, x₁, t, x₂) => hyphenReplace f x₁ t x₂
    | none => r
  let r := comparatorTrim r.length r
  let r := tildeTrim r.length r
  let r := caretTrim r.length r
  (splitWs (joinSpace ((splitWs r).map parseComparator))).mapM newComparator

/-- `range.split(/\s*\|\|\s*/)`。前後の空白は `parseRange` の `trim` が落とす。 -/
def splitOr : List Char → List (List Char)
  | '|' :: '|' :: rest => [] :: splitOr rest
  | c :: rest =>
    match splitOr rest with
    | [] => [[c]]
    | part :: parts => (c :: part) :: parts
  | [] => [[]]

/--
`new Range(range)`：組の列。どれかの組が読めなければ投げる（`none`）。どの組も比較子を
一つ以上持つので（空の語は `ANY` になる）、空の組を落とす `filter` は何もしない。
-/
def parseRangeSet (range : String) : Option (List (List Comparator)) :=
  (splitOr range.toList).mapM parseRange

/--
`testSet(set, version)`：どの比較子も通し、版が prerelease を持つなら、同じ `M.m.p` の
prerelease を持つ比較子があること。
-/
def testSet (set : List Comparator) (v : Version) : Bool :=
  set.all (·.test v) &&
    (v.prerelease.isEmpty ||
      set.any fun
        | .cmp _ w => !w.prerelease.isEmpty && w.major == v.major && w.minor == v.minor &&
            w.patch == v.patch
        | .any => false)

/-- `semver.satisfies(version, range)`。範囲が読めなければ `false`。 -/
def satisfies (v : Version) (range : String) : Bool :=
  match parseRangeSet range with
  | some sets => sets.any (testSet · v)
  | none => false

/-- prerelease も build も無い版 `M.m.p`。 -/
def release (M m p : Nat) : Version := ⟨M, m, p, [], []⟩

/-! x-range の語は `[v=\s]*` を読み飛ばすが、x の無い語はそのまま `new Comparator` に渡り、
そこでは `v` 一つしか読み飛ばさない。 -/

example : satisfies (release 7 1 0) "v=7.x" = true := by decide
example : satisfies (release 7 1 0) "==7.1" = true := by decide
example : satisfies (release 7 1 0) "v=7.1.0" = false := by decide

end CloudApi.Semver
