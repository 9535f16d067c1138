import CloudApi.Js
import Mathlib.Data.List.Nodup

/-!
# provision の plugin（`app.js` の `loadPlugins`）

plugin は設定ファイルの `plugins` と、UFDS の `ou=config, o=smartdc` の両方で定義できる。
同じ名前なら UFDS のものが勝つ。`loadPlugins` は二段で進む。

* `mergePlugins` — UFDS の plugin ごとに、設定の同じ名前の entry を置き換え（`map`）、
  それから設定に無い名前を後ろに足す（`some` と `push`）。
* 併合した並びを順に見て、有効で `mods[name]` が truthy な plugin の module を `require` し、
  その `preProvision`・`postProvision` を plugin の `config` で作った hook を積む。

`plugins/` の中身は src に無いので、その `.js` の basename の並び `modNames` と、`require` の
返す module `modules` を引数に取る。`mods` は `{}` から作った object なので、`mods[name]` は
自前の property が無ければ `Object.prototype` の property に当たる。

## 示すこと

* `mergePlugins_eq` — 名前がそれぞれ重ならなければ、併合は「設定の並びで、UFDS にある名前は
  UFDS の entry に替え、その後に設定に無い UFDS の entry を UFDS の並びで」になり、名前は重ならない。
* `loadPlugins_hooks` — `loadPlugins` が返せば、hook は併合した並びのうち有効で module のある
  plugin から、一つずつ、その entry の `config` で作られる。
* `Object.prototype` の名前を持つ有効な plugin があると、`require` が投げて何も返らない。
-/

namespace CloudApi.Plugins

open Js

variable {Cfg : Type}

/-- 設定ファイルか UFDS の plugin。`config` の中身は module に渡すだけなので型を引数に取る。 -/
structure Plugin (Cfg : Type) where
  name : String
  enabled : Bool
  config : Cfg
  deriving DecidableEq, Repr

/-! ## 併合 -/

/-- 一つ目の `ufdsPlugins.forEach`：設定の同じ名前の entry を `pl` で置き換える。 -/
def overrideFrom (plugins : List (Plugin Cfg)) (pl : Plugin Cfg) : List (Plugin Cfg) :=
  plugins.map fun plugin => if plugin.name = pl.name then pl else plugin

/-- 二つ目の `ufdsPlugins.forEach`：同じ名前が無ければ `pl` を後ろに足す。 -/
def appendMissing (plugins : List (Plugin Cfg)) (pl : Plugin Cfg) : List (Plugin Cfg) :=
  if plugins.any (·.name == pl.name) then plugins else plugins ++ [pl]

/-- `loadPlugins` が `plugins.forEach` で見る並び。 -/
def mergePlugins (plugins ufdsPlugins : List (Plugin Cfg)) : List (Plugin Cfg) :=
  ufdsPlugins.foldl appendMissing (ufdsPlugins.foldl overrideFrom plugins)

/-- `plugin` の名前を持つ UFDS の entry があればそれ、無ければ `plugin` のまま。 -/
def preferUfds (ufdsPlugins : List (Plugin Cfg)) (plugin : Plugin Cfg) : Plugin Cfg :=
  (ufdsPlugins.find? (·.name == plugin.name)).getD plugin

/-- 併合の意図：設定の並びで UFDS を優先し、その後に設定に無い UFDS の entry。 -/
def specMerge (plugins ufdsPlugins : List (Plugin Cfg)) : List (Plugin Cfg) :=
  plugins.map (preferUfds ufdsPlugins) ++
    ufdsPlugins.filter fun pl => !plugins.any (·.name == pl.name)

/-! ## hook -/

/-- `mods[name]` の値。 -/
inductive ModRef where
  /-- `plugins/name.js` への path。 -/
  | file (name : String)
  /-- `Object.prototype` の property（関数か object）。 -/
  | proto
  deriving DecidableEq, Repr

/-- `mods` の自前の property。`mods['__proto__'] = path` は prototype の setter に渡り、何も足さない。 -/
def hasModule (modNames : List String) (name : String) : Bool :=
  modNames.contains name && name != "__proto__"

/-- `mods[name]`。`none` は `undefined`。 -/
def modsLookup (modNames : List String) (name : String) : Option ModRef :=
  if hasModule modNames name then some (.file name)
  else if objectPrototypeKeys.contains name then some .proto
  else none

/-- `require(mods[name])` した module の hook が関数かどうか。 -/
structure PluginModule where
  preProvision : Bool
  postProvision : Bool
  deriving DecidableEq, Repr

/-- 積まれる hook `p[name].preProvision(cfg[name])`。どの module の hook を、どの `config` で作ったか。 -/
abbrev Hook (Cfg : Type) := String × Cfg

/-- `[preProvision, postProvision]`。 -/
abbrev Hooks (Cfg : Type) := List (Hook Cfg) × List (Hook Cfg)

/-- `plugins.forEach` の一回。`require` は文字列でない path に投げる。 -/
def loadPlugin (modNames : List String) (modules : String → PluginModule) (hooks : Hooks Cfg)
    (plugin : Plugin Cfg) : Except Err (Hooks Cfg) :=
  if plugin.enabled then
    match modsLookup modNames plugin.name with
    | none => .ok hooks
    | some .proto => .error (.typeError "path must be a string")
    | some (.file name) =>
      let m := modules name
      .ok (hooks.1 ++ (if m.preProvision then [(plugin.name, plugin.config)] else []),
        hooks.2 ++ (if m.postProvision then [(plugin.name, plugin.config)] else []))
  else .ok hooks

/-- `loadPlugins(plugins, ufdsPlugins, log)`。 -/
def loadPlugins (modNames : List String) (modules : String → PluginModule)
    (plugins ufdsPlugins : List (Plugin Cfg)) : Except Err (Hooks Cfg) :=
  (mergePlugins plugins ufdsPlugins).foldlM (loadPlugin modNames modules) ([], [])

/-! ## 併合の形 -/

section Merge

variable {C U : List (Plugin Cfg)}

@[simp] theorem preferUfds_name (U : List (Plugin Cfg)) (c : Plugin Cfg) :
    (preferUfds U c).name = c.name := by
  unfold preferUfds
  cases h : U.find? (·.name == c.name) with
  | none => rfl
  | some u => simpa using List.find?_some h

/-- 先頭の `u` で置き換えてから残りで選んでも、全体で選んでも同じ。`u` の名前は残りに無い。 -/
theorem preferUfds_overrideFrom {u c : Plugin Cfg} (hu : u.name ∉ U.map (·.name)) :
    preferUfds U (if c.name = u.name then u else c) = preferUfds (u :: U) c := by
  by_cases hc : c.name = u.name
  · have hnone : U.find? (·.name == u.name) = none :=
      List.find?_eq_none.2 fun x hx hxu => hu (List.mem_map.2 ⟨x, hx, by simpa using hxu⟩)
    simp [preferUfds, hc, hnone]
  · have hne : ¬(u.name == c.name) = true := fun h => hc (beq_iff_eq.1 h).symm
    rw [if_neg hc, preferUfds, preferUfds,
      @List.find?_cons_of_neg _ (fun x : Plugin Cfg => x.name == c.name) u U hne]

/-- 一つ目の `forEach` は、設定の各 entry を UFDS のものがあればそれに替える。 -/
theorem foldl_overrideFrom (hU : (U.map (·.name)).Nodup) :
    ∀ C : List (Plugin Cfg), U.foldl overrideFrom C = C.map (preferUfds U) := by
  induction U with
  | nil => intro C; exact (List.map_id'' (fun _ => rfl) C).symm
  | cons u U ih =>
    intro C
    obtain ⟨hu, hU⟩ := List.nodup_cons.1 hU
    rw [List.foldl_cons, ih hU, overrideFrom, List.map_map]
    exact List.map_congr_left fun c _ => preferUfds_overrideFrom hu

/-- 二つ目の `forEach` は、まだ無い名前の UFDS の entry を UFDS の並びで後ろに足す。 -/
theorem foldl_appendMissing (hU : (U.map (·.name)).Nodup) :
    ∀ P : List (Plugin Cfg),
      U.foldl appendMissing P = P ++ U.filter fun pl => !P.any (·.name == pl.name) := by
  induction U with
  | nil => intro P; simp
  | cons u U ih =>
    intro P
    obtain ⟨hu, hU⟩ := List.nodup_cons.1 hU
    rw [List.foldl_cons, ih hU, appendMissing]
    by_cases hp : P.any (·.name == u.name)
    · simp [hp]
    · have hfilter : (U.filter fun pl => !(P ++ [u]).any (·.name == pl.name)) =
          U.filter fun pl => !P.any (·.name == pl.name) :=
        List.filter_congr fun pl hpl => by
          have : u.name ≠ pl.name := fun e => hu (List.mem_map.2 ⟨pl, hpl, e.symm⟩)
          simp [this]
      rw [if_neg hp, hfilter, List.filter_cons_of_pos (by simpa using hp), List.append_assoc,
        List.singleton_append]

/-- 二つの `forEach` の後の並びは、設定の並びで UFDS を優先し、設定に無い UFDS の entry を続けたもの。 -/
theorem mergePlugins_eq_specMerge (hU : (U.map (·.name)).Nodup) :
    mergePlugins C U = specMerge C U := by
  have hany : ∀ x : String, (C.map (preferUfds U)).any (·.name == x) = C.any (·.name == x) :=
    fun x => by simp [List.any_map, Function.comp_def]
  rw [mergePlugins, foldl_overrideFrom hU, foldl_appendMissing hU, specMerge]
  simp only [hany]

/-- 設定と UFDS のそれぞれで名前が重ならなければ、併合の意図の並びでも重ならない。 -/
theorem specMerge_names_nodup (hC : (C.map (·.name)).Nodup) (hU : (U.map (·.name)).Nodup) :
    ((specMerge C U).map (·.name)).Nodup := by
  have hfirst : (C.map (preferUfds U)).map (·.name) = C.map (·.name) := by
    rw [List.map_map]; exact List.map_congr_left fun c _ => preferUfds_name U c
  rw [specMerge, List.map_append, hfirst, List.nodup_append]
  refine ⟨hC, hU.sublist ((List.filter_sublist U).map _), fun x hx hx' => ?_⟩
  obtain ⟨u, hu, rfl⟩ := List.mem_map.1 hx'
  obtain ⟨c, hc, hcu⟩ := List.mem_map.1 hx
  have hnot := (List.mem_filter.1 hu).2
  simp only [Bool.not_eq_true', List.any_eq_false, beq_iff_eq] at hnot
  exact hnot c hc hcu

/--
**名前がそれぞれ重ならなければ、`loadPlugins` の見る並びは、設定の並びで UFDS を優先したものに、
設定に無い UFDS の entry を UFDS の並びで続けたもの。その名前は重ならない。**
-/
theorem mergePlugins_eq (hC : (C.map (·.name)).Nodup) (hU : (U.map (·.name)).Nodup) :
    mergePlugins C U = specMerge C U ∧ ((mergePlugins C U).map (·.name)).Nodup := by
  rw [mergePlugins_eq_specMerge hU]
  exact ⟨rfl, specMerge_names_nodup hC hU⟩

end Merge

/-- UFDS が `capi_limits` を上書きし、設定に無い `audit` を後ろに足す。 -/
theorem mergePlugins_eq_overlap :
    let C : List (Plugin String) :=
      [⟨"capi_limits", false, "config"⟩, ⟨"machine_email", true, "config"⟩]
    let U : List (Plugin String) := [⟨"audit", true, "ufds"⟩, ⟨"capi_limits", true, "ufds"⟩]
    (C.map (·.name)).Nodup ∧ (U.map (·.name)).Nodup ∧
      (mergePlugins C U = specMerge C U ∧ ((mergePlugins C U).map (·.name)).Nodup) := by
  intro C U
  have hC : (C.map (·.name)).Nodup := by decide
  have hU : (U.map (·.name)).Nodup := by decide
  exact ⟨hC, hU, mergePlugins_eq hC hU⟩

/-! ## 積まれる hook -/

/-- 有効で、`mods` に自前の path がある plugin：その module が `require` される。 -/
def loads (modNames : List String) (plugin : Plugin Cfg) : Bool :=
  plugin.enabled && hasModule modNames plugin.name

/-- plugin の module の hook を、その entry の `config` で作ったもの。 -/
def hookOf (plugin : Plugin Cfg) : Hook Cfg := (plugin.name, plugin.config)

section Hooks

variable {modNames : List String} {modules : String → PluginModule}

/-- 一回で積まれるのは、その plugin が module を読むときの、関数である hook だけ。 -/
theorem loadPlugin_ok {hooks hooks' : Hooks Cfg} {plugin : Plugin Cfg}
    (h : loadPlugin modNames modules hooks plugin = .ok hooks') :
    hooks'.1 = hooks.1 ++
        (if loads modNames plugin && (modules plugin.name).preProvision then [hookOf plugin] else []) ∧
      hooks'.2 = hooks.2 ++
        (if loads modNames plugin && (modules plugin.name).postProvision then [hookOf plugin] else []) := by
  unfold loadPlugin modsLookup at h
  split_ifs at h with he hm hp <;> cases h <;> simp [loads, hookOf, *]

/-- 並び全体では、module を読む plugin の hook が並びの順に一つずつ積まれる。 -/
theorem foldlM_loadPlugin : ∀ (L : List (Plugin Cfg)) (hooks hooks' : Hooks Cfg),
    L.foldlM (loadPlugin modNames modules) hooks = .ok hooks' →
    hooks'.1 = hooks.1 ++
        (L.filter fun p => loads modNames p && (modules p.name).preProvision).map hookOf ∧
      hooks'.2 = hooks.2 ++
        (L.filter fun p => loads modNames p && (modules p.name).postProvision).map hookOf
  | [], _, _, h => by cases h; simp
  | p :: L, hooks, hooks', h => by
    obtain ⟨mid, hmid, h⟩ := bind_eq_ok h
    obtain ⟨h1, h2⟩ := loadPlugin_ok hmid
    obtain ⟨h1', h2'⟩ := foldlM_loadPlugin L mid hooks' h
    rw [h1', h1, h2', h2]
    constructor
    · cases hc : (loads modNames p && (modules p.name).preProvision) <;> simp [List.filter_cons, hc]
    · cases hc : (loads modNames p && (modules p.name).postProvision) <;> simp [List.filter_cons, hc]

/--
**`loadPlugins` が返せば、hook は併合した並びのうち module を読む plugin から、並びの順に
一つずつ、その entry（UFDS にあれば UFDS のもの）の `config` で作られる。**
-/
theorem loadPlugins_hooks {C U : List (Plugin Cfg)} {hooks : Hooks Cfg}
    (hC : (C.map (·.name)).Nodup) (hU : (U.map (·.name)).Nodup)
    (h : loadPlugins modNames modules C U = .ok hooks) :
    hooks.1 = ((specMerge C U).filter fun p =>
        loads modNames p && (modules p.name).preProvision).map hookOf ∧
      hooks.2 = ((specMerge C U).filter fun p =>
        loads modNames p && (modules p.name).postProvision).map hookOf ∧
      (hooks.1.map Prod.fst).Nodup ∧ (hooks.2.map Prod.fst).Nodup := by
  have hnd := specMerge_names_nodup hC hU
  obtain ⟨h1, h2⟩ := foldlM_loadPlugin _ _ _ h
  simp only [List.nil_append, mergePlugins_eq_specMerge hU] at h1 h2
  refine ⟨h1, h2, ?_, ?_⟩
  · rw [h1, List.map_map]; exact hnd.sublist ((List.filter_sublist _).map _)
  · rw [h2, List.map_map]; exact hnd.sublist ((List.filter_sublist _).map _)

/-- `capi_limits` の hook は UFDS の `config` で作られ、module の無い `machine_email` は何も積まない。 -/
theorem loadPlugins_hooks_overlap :
    let C : List (Plugin String) :=
      [⟨"capi_limits", false, "config"⟩, ⟨"machine_email", true, "config"⟩]
    let U : List (Plugin String) := [⟨"audit", true, "ufds"⟩, ⟨"capi_limits", true, "ufds"⟩]
    let modNames := ["capi_limits", "audit"]
    let modules : String → PluginModule := fun n => ⟨n == "capi_limits", true⟩
    let hooks : Hooks String :=
      ([("capi_limits", "ufds")], [("capi_limits", "ufds"), ("audit", "ufds")])
    loadPlugins modNames modules C U = .ok hooks ∧
      (hooks.1 = ((specMerge C U).filter fun p =>
          loads modNames p && (modules p.name).preProvision).map hookOf ∧
        hooks.2 = ((specMerge C U).filter fun p =>
          loads modNames p && (modules p.name).postProvision).map hookOf ∧
        (hooks.1.map Prod.fst).Nodup ∧ (hooks.2.map Prod.fst).Nodup) := by
  intro C U modNames modules hooks
  have h : loadPlugins modNames modules C U = .ok hooks := by decide
  exact ⟨h, loadPlugins_hooks (by decide) (by decide) h⟩

/-- `loadPlugin` の失敗は、`require` に文字列でない path を渡したときだけ。 -/
theorem loadPlugin_error {hooks : Hooks Cfg} {plugin : Plugin Cfg} {e : Err}
    (h : loadPlugin modNames modules hooks plugin = .error e) :
    e = .typeError "path must be a string" := by
  unfold loadPlugin modsLookup at h
  split_ifs at h
  exact (Except.error.inj h).symm

theorem foldlM_loadPlugin_throws : ∀ (L : List (Plugin Cfg)) (hooks : Hooks Cfg),
    (∃ p ∈ L, p.enabled = true ∧ modsLookup modNames p.name = some .proto) →
    L.foldlM (loadPlugin modNames modules) hooks = .error (.typeError "path must be a string")
  | [], _, ⟨_, hp, _⟩ => nomatch hp
  | p :: L, hooks, ⟨q, hq, he, hproto⟩ => by
    cases hstep : loadPlugin modNames modules hooks p with
    | error e => simp only [List.foldlM_cons, hstep, error_bind, loadPlugin_error hstep]
    | ok mid =>
      rcases List.mem_cons.1 hq with rfl | hq
      · rw [loadPlugin, if_pos he, hproto] at hstep; cases hstep
      · rw [List.foldlM_cons, hstep, ok_bind]
        exact foldlM_loadPlugin_throws L mid ⟨q, hq, he, hproto⟩

/--
**有効で、`mods[name]` が `Object.prototype` の property に当たる plugin が併合した並びにあれば、
`loadPlugins` は投げ、どの plugin の hook も返らない。**
-/
theorem loadPlugins_throws {C U : List (Plugin Cfg)}
    (h : ∃ p ∈ mergePlugins C U, p.enabled = true ∧ modsLookup modNames p.name = some .proto) :
    loadPlugins modNames modules C U = .error (.typeError "path must be a string") :=
  foldlM_loadPlugin_throws _ _ h

end Hooks

/-- `toString` という名前の有効な plugin があると、module のある `capi_limits` の hook も返らない。 -/
theorem loadPlugins_throws_on_toString :
    let C : List (Plugin String) := [⟨"toString", true, "{}"⟩, ⟨"capi_limits", true, "{}"⟩]
    (C.map (·.name)).Nodup ∧ loads ["capi_limits"] ⟨"capi_limits", true, "{}"⟩ = true ∧
      loadPlugins ["capi_limits"] (fun _ => ⟨true, true⟩) C [] =
        .error (.typeError "path must be a string") :=
  ⟨by decide, rfl, loadPlugins_throws ⟨⟨"toString", true, "{}"⟩, by decide, rfl, by decide⟩⟩

end CloudApi.Plugins
