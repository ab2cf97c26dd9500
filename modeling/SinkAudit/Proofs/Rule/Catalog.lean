import Mathlib.Data.List.Nodup
import SinkAudit.Proofs.Pattern.Mirror
import SinkAudit.Rule.Builtin

/-!
# Catalogs and their rules

Reading rules changes nothing but the patterns, and no two rules of a catalog that was read share an
id.  So an id stands for one rule, also when some rules have been left out.

The patterns of the built-in rules test no place and need no blank at either end of a match, so a rule
finds the same pattern in a line and in the trimmed line.

* `ofInfos_eq_ok`, `ofInfos_ok`: what a catalog keeps of the rules that were written down.
* `builtin_eq`: the built-in rules, each read by itself.
* `lookup_eq_ok`: an id stands for its rule.
* `builtin_eq_of_id_eq`, `id_mem_of_mem_builtin`: the ids of the built-in rules.
* `matchingPattern_trim`, `matchLine_trim`: trimming does not change what built-in rules find.
-/

namespace SinkAudit

/-- A pattern with its text; a stand-in, if the text cannot be read. -/
def SinkPattern.reading (source : String) : SinkPattern :=
  ⟨source, (Pattern.parse? source).getD default⟩

namespace Rule

/-- The rule that was written down, each pattern read by itself. -/
def reading (i : RuleInfo) : Rule :=
  ⟨i.id, i.name, i.description, i.severity, i.cwe, i.patterns.map SinkPattern.reading⟩

theorem info_reading (i : RuleInfo) : (reading i).info = i := by
  have hsources : (i.patterns.map SinkPattern.reading).map (·.source) = i.patterns := by
    rw [List.map_map]
    exact List.map_id _
  rw [info, reading, hsources]

theorem eq_reading_of_readPatterns {id : String} {texts : List String} {ps : List SinkPattern}
    (h : readPatterns id texts = .ok ps) : ps = texts.map SinkPattern.reading := by
  induction texts generalizing ps with
  | nil =>
    cases h
    rfl
  | cons s ss ih =>
    rw [readPatterns] at h
    split at h
    · cases h
    · rename_i hp
      split at h
      · cases h
      · rename_i hrest
        cases h
        rw [List.map_cons, ← ih hrest, SinkPattern.reading, hp, Option.getD_some]

theorem eq_reading_of_ofInfo {i : RuleInfo} {r : Rule} (h : ofInfo i = .ok r) : r = reading i := by
  rw [ofInfo] at h
  cases hps : readPatterns i.id i.patterns with
  | error e =>
    rw [hps] at h
    cases h
  | ok ps =>
    rw [hps] at h
    cases h
    rw [eq_reading_of_readPatterns hps, reading]

end Rule

namespace Catalog

/-! ## Catalogs that were read -/

theorem eq_reading_of_readRules {infos : List RuleInfo} {rs : List Rule}
    (h : readRules infos = .ok rs) : rs = infos.map Rule.reading := by
  induction infos generalizing rs with
  | nil =>
    cases h
    rfl
  | cons i is ih =>
    rw [readRules] at h
    split at h
    · cases h
    · rename_i hr
      split at h
      · cases h
      · rename_i hrest
        cases h
        rw [List.map_cons, ih hrest, Rule.eq_reading_of_ofInfo hr]

theorem duplicate?_eq_none {seen ids : List String} (h : duplicate? seen ids = none) :
    ids.Nodup ∧ ∀ id ∈ ids, id ∉ seen := by
  induction ids generalizing seen with
  | nil => exact ⟨.nil, fun id hid => (nomatch hid)⟩
  | cons id ids ih =>
    rw [duplicate?] at h
    split at h
    case isTrue => cases h
    case isFalse hseen =>
      obtain ⟨hnodup, hfresh⟩ := ih h
      refine ⟨List.nodup_cons.mpr ⟨fun hid => hfresh id hid List.mem_cons_self, hnodup⟩, ?_⟩
      refine List.forall_mem_cons.mpr ⟨fun hid => hseen (List.contains_iff_mem.mpr hid), ?_⟩
      exact fun x hx hxs => hfresh x hx (List.mem_cons_of_mem id hxs)

/-- A catalog of a list of rules has these rules, and they have different ids. -/
theorem ofRules_eq_ok {rules : List Rule} {c : Catalog} (h : ofRules rules = .ok c) :
    c.rules = rules ∧ (c.rules.map (·.id)).Nodup := by
  rw [ofRules] at h
  split at h
  case h_1 => cases h
  case h_2 hdup =>
    cases h
    exact ⟨rfl, (duplicate?_eq_none hdup).1⟩

/-- A catalog that was read has the rules that were written down, and they have different ids. -/
theorem ofInfos_eq_ok {infos : List RuleInfo} {c : Catalog} (h : ofInfos infos = .ok c) :
    c.rules = infos.map Rule.reading ∧ (c.rules.map (·.id)).Nodup := by
  rw [ofInfos] at h
  split at h
  case h_1 => cases h
  case h_2 rs hrs =>
    obtain ⟨hrules, hnodup⟩ := ofRules_eq_ok h
    exact ⟨hrules.trans (eq_reading_of_readRules hrs), hnodup⟩

/-- A catalog lists the rules as they were written down, and they have different ids. -/
theorem ofInfos_ok {infos : List RuleInfo} {c : Catalog} (h : ofInfos infos = .ok c) :
    c.infos = infos ∧ (c.rules.map (·.id)).Nodup := by
  obtain ⟨hrules, hnodup⟩ := ofInfos_eq_ok h
  refine ⟨?_, hnodup⟩
  rw [Catalog.infos, hrules, List.map_map]
  exact List.map_id'' Rule.info_reading infos

theorem mem_without {c : Catalog} {ids : List String} {r : Rule} :
    r ∈ (c.without ids).rules ↔ r ∈ c.rules ∧ r.id ∉ ids := by
  rw [without, List.mem_filter, Bool.not_eq_true', ← Bool.not_eq_true, List.contains_iff_mem]

theorem nodup_without {c : Catalog} (h : (c.rules.map (·.id)).Nodup) (ids : List String) :
    ((c.without ids).rules.map (·.id)).Nodup :=
  (List.filter_sublist.map _).nodup h

/-- Nothing is left out of a catalog if nothing is to be. -/
theorem without_nil {c : Catalog} : c.without [] = c := by
  have hall : c.rules.filter (fun r => !([] : List String).contains r.id) = c.rules :=
    List.filter_eq_self.mpr fun _ _ => rfl
  rw [without, hall]

/-- Where ids are different, looking up the id of a rule gives the rule. -/
theorem lookup_eq_ok {c : Catalog} (h : (c.rules.map (·.id)).Nodup) {r : Rule} (hr : r ∈ c.rules) :
    c.lookup r.id = .ok r := by
  rw [lookup]
  cases hfind : c.rules.find? fun r' => r'.id == r.id with
  | none => exact absurd (beq_self_eq_true r.id) (List.find?_eq_none.mp hfind r hr)
  | some r' =>
    have hbeq : (r'.id == r.id) = true := List.find?_some (p := fun q : Rule => q.id == r.id) hfind
    have hid : r'.id = r.id := beq_iff_eq.mp hbeq
    rw [List.inj_on_of_nodup_map h (List.mem_of_find?_eq_some hfind) hr hid]

/-! ## Lines -/

theorem of_matchLine_eq_some {c : Catalog} {line : String} {r : Rule} {p : String}
    (h : c.matchLine line = some (r, p)) : r ∈ c.rules ∧ r.matchingPattern line = some p := by
  obtain ⟨r', hr', h⟩ := List.exists_of_findSome?_eq_some h
  obtain ⟨p', hp', hrp⟩ := Option.map_eq_some_iff.mp h
  obtain ⟨rfl, rfl⟩ := Prod.mk.inj hrp
  exact ⟨hr', hp'⟩

/-- What a catalog finds in a line depends on what its rules find there. -/
theorem matchLine_congr {c : Catalog} {line line' : String}
    (h : ∀ r ∈ c.rules, r.matchingPattern line = r.matchingPattern line') :
    c.matchLine line = c.matchLine line' := by
  rw [matchLine, matchLine, ← List.head?_filterMap, ← List.head?_filterMap]
  refine congrArg List.head? (List.filterMap_congr fun r hr => ?_)
  rw [h r hr]

/-! ## The built-in rules -/

theorem orEmpty_of_toOption {e : Except Error Catalog} {c : Catalog} (h : e.toOption = some c) :
    e = .ok c ∧ orEmpty e = c := by
  cases e with
  | ok c' =>
    obtain rfl := Option.some.inj h
    exact ⟨rfl, rfl⟩
  | error e => cases h

/-- The built-in rules can be read.  None of their patterns tests the place, and none needs a blank at
either end of a match. -/
theorem exists_ofInfos_builtinInfos :
    ((ofInfos builtinInfos).toOption.map fun c => c.rules.all fun r => r.patterns.all fun p =>
      p.expr.isPlain && p.expr.shedsBlanks) = some true := by
  decide +kernel

theorem ofInfos_builtinInfos : ofInfos builtinInfos = .ok builtin := by
  obtain ⟨c, hc, -⟩ := Option.map_eq_some_iff.mp exists_ofInfos_builtinInfos
  obtain ⟨hok, hempty⟩ := orEmpty_of_toOption hc
  rw [hok, builtin, hempty]

theorem isPlain_and_shedsBlanks {r : Rule} (hr : r ∈ builtin.rules) {p : SinkPattern}
    (hp : p ∈ r.patterns) : p.expr.isPlain = true ∧ p.expr.shedsBlanks = true := by
  obtain ⟨c, hc, hall⟩ := Option.map_eq_some_iff.mp exists_ofInfos_builtinInfos
  rw [builtin, (orEmpty_of_toOption hc).2] at hr
  exact Bool.and_eq_true_iff.mp (List.all_eq_true.mp (List.all_eq_true.mp hall r hr) p hp)

theorem eq_mk_of_rules_eq {c : Catalog} {rules : List Rule} (h : c.rules = rules) : c = ⟨rules⟩ := by
  cases h
  rfl

/-- The built-in rules, each read by itself: what only a few of them decide is decided by reading
these few. -/
theorem builtin_eq : builtin = ⟨builtinInfos.map Rule.reading⟩ := by
  exact eq_mk_of_rules_eq (ofInfos_eq_ok ofInfos_builtinInfos).1

theorem nodup_ids_builtin : (builtin.rules.map (·.id)).Nodup :=
  (ofInfos_ok ofInfos_builtinInfos).2

/-- An id stands for one built-in rule. -/
theorem builtin_eq_of_id_eq {r r' : Rule} (hr : r ∈ builtin.rules) (hr' : r' ∈ builtin.rules)
    (h : r.id = r'.id) : r = r' :=
  List.inj_on_of_nodup_map nodup_ids_builtin hr hr' h

theorem info_mem_of_mem_builtin {r : Rule} (hr : r ∈ builtin.rules) : r.info ∈ builtinInfos := by
  rw [← (ofInfos_ok ofInfos_builtinInfos).1, infos]
  exact List.mem_map_of_mem hr

theorem id_mem_of_mem_builtin {r : Rule} (hr : r ∈ builtin.rules) :
    r.id ∈ builtinInfos.map (·.id) :=
  List.mem_map_of_mem (info_mem_of_mem_builtin hr)

/-- No built-in rule has a pattern twice. -/
theorem nodup_sources_of_mem_builtin {r : Rule} (hr : r ∈ builtin.rules) :
    (r.patterns.map (·.source)).Nodup := by
  have hall : ∀ i ∈ builtinInfos, i.patterns.Nodup := by decide +kernel
  exact hall r.info (info_mem_of_mem_builtin hr)

/-- A built-in rule finds the same pattern in a line and in the trimmed line. -/
theorem matchingPattern_trim {r : Rule} (hr : r ∈ builtin.rules) (line : String) :
    r.matchingPattern (Text.trim line) = r.matchingPattern line := by
  have hmatch : ∀ p ∈ r.patterns, p.expr.isMatch (Text.trim line) = p.expr.isMatch line := by
    intro p hp
    obtain ⟨hplain, hsheds⟩ := isPlain_and_shedsBlanks hr hp
    exact Pattern.isMatch_trim hplain hsheds line
  rw [Rule.matchingPattern, Rule.matchingPattern, ← List.head?_filter, ← List.head?_filter,
    List.filter_congr hmatch]

/-- The built-in rules find the same in a line and in the trimmed line, whichever of them are left
out. -/
theorem matchLine_trim (ids : List String) (line : String) :
    (builtin.without ids).matchLine (Text.trim line) = (builtin.without ids).matchLine line :=
  matchLine_congr fun _ hr => matchingPattern_trim (mem_without.mp hr).1 line

end Catalog

end SinkAudit
