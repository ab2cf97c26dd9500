import SinkAudit.Proofs.Workspace.Walk

/-!
# Files in a workspace

What the operations on files do, for a path that stands in a directory.

* `WellFormed`: every file has a content, and no two places share one.
* `StandsIn.resolve_entry`: what a path leads to is the node at its place.
* `StandsIn.read_file`, `StandsIn.openFile_file`, `StandsIn.openFile_missing`,
  `StandsIn.write_ok`, `StandsIn.rename_replaces`, `StandsIn.rename_ok`: the operations, by what is at
  that place.
* `resolve_setContent`: where a path leads does not depend on what is in the files.
* `wellFormed_newFile`, `wellFormed_setContent`: numbers stay in use at one place only.
-/

namespace SinkAudit
namespace Workspace

/-- A workspace as the operations leave it: numbers of files are in use at one place only. -/
structure WellFormed (w : Workspace) : Prop where
  bound : ∀ p i, w.nodeAt? p = some (.file i) → i < w.contents.size
  distinct : ∀ p q i, w.nodeAt? p = some (.file i) → w.nodeAt? q = some (.file i) → p = q

/-- There is a file at a place, or nothing. -/
def Vacant (w : Workspace) (p : Place) : Prop :=
  w.nodeAt? p = none ∨ ∃ i, w.nodeAt? p = some (.file i)

theorem Vacant.bare {w : Workspace} {p : Place} (h : w.Vacant p) : Node.Bare (w.nodeAt? p) := by
  rcases h with h | ⟨i, h⟩
  · rw [h]; exact Node.bare_none
  · rw [h]; exact Node.bare_file i

theorem Vacant.ne_link {w : Workspace} {p : Place} (h : w.Vacant p) (s : String) :
    w.nodeAt? p ≠ some (.link s) := by
  rcases h with h | ⟨i, h⟩
  · rw [h]; simp
  · rw [h]; simp

/-- What is no file is somewhere else. -/
theorem Vacant.ne_of_nodeAt? {w : Workspace} {p q : Place} {n : Node} (h : w.Vacant p)
    (hq : w.nodeAt? q = some n) (hn : ∀ i, n ≠ .file i) : q ≠ p := by
  rintro rfl
  rcases h with h | ⟨i, h⟩
  · rw [hq] at h
    exact absurd h (by simp)
  · rw [hq] at h
    exact hn i (Option.some.inj h)

theorem Vacant.ne_dir {w : Workspace} {p : Place} (h : w.Vacant p) (es : List (String × Node)) :
    w.nodeAt? p ≠ some (.dir es) := by
  rcases h with h | ⟨i, h⟩
  · rw [h]; simp
  · rw [h]; simp

/-! ## What a path leads to -/

/-- What a look at the place of an entry gives. -/
def entryTarget (w : Workspace) (d : Place) (k : String) : Target :=
  match w.nodeAt? (k :: d) with
  | none => .missing d k
  | some n => .found (k :: d) n

variable {w : Workspace} {path k : String} {d : Place}

theorem lastTarget_eq {es : List (String × Node)} (hes : w.nodeAt? d = some (.dir es))
    (hk : k.utf8ByteSize ≤ maxName) : lastTarget d es k = .ok (w.entryTarget d k) := by
  rw [lastTarget, if_neg (Nat.not_lt.mpr hk), entryTarget, nodeAt?_cons hes]
  cases Node.child? k es with
  | none => rfl
  | some n => rfl

/-- A path leads to what is at its place. -/
theorem StandsIn.resolve_entry (h : StandsIn w path k d) (hk : k.utf8ByteSize ≤ maxName)
    (hp : w.Vacant (k :: d)) (q : Purpose) : w.resolve q path = .ok (w.entryTarget d k) := by
  obtain ⟨es, hes⟩ := h.exists_dir
  rw [h.resolve_eq hes, lastTarget_eq hes hk]
  refine Or.inr fun _ s hs => hp.ne_link s ?_
  rw [nodeAt?_cons hes, hs]

/-- A name that is too long leads nowhere. -/
theorem StandsIn.resolve_long (h : StandsIn w path k d) (hk : ¬k.utf8ByteSize ≤ maxName)
    (q : Purpose) : w.resolve q path = .error .nameTooLong := by
  obtain ⟨es, hes⟩ := h.exists_dir
  rw [h.resolve_eq hes (Or.inr fun hshort => absurd hshort hk), lastTarget,
    if_pos (Nat.not_le.mp hk)]

/-- A path that leads to something, or to a missing name, stands in a directory. -/
theorem Named.exists_standsIn (h : Named path k) {target : Target}
    (htarget : w.resolve .inspect path = .ok target) :
    ∃ d, StandsIn w path k d ∧ k.utf8ByteSize ≤ maxName ∧ target = w.entryTarget d k := by
  by_cases hd : ∃ d, StandsIn w path k d
  · obtain ⟨d, hd⟩ := hd
    obtain ⟨es, hes⟩ := hd.exists_dir
    rw [hd.resolve_eq hes (Or.inl rfl)] at htarget
    by_cases hk : k.utf8ByteSize ≤ maxName
    · rw [lastTarget_eq hes hk, Except.ok.injEq] at htarget
      exact ⟨d, hd, hk, htarget.symm⟩
    · rw [← hd.resolve_eq hes (Or.inl rfl), hd.resolve_long hk] at htarget
      exact absurd htarget (by simp)
  · obtain ⟨e, he⟩ := h.resolve_eq_error hd
    rw [he] at htarget
    exact absurd htarget (by simp)

theorem StandsIn.read_file (h : StandsIn w path k d) (hk : k.utf8ByteSize ≤ maxName) {i : Nat}
    (hi : w.nodeAt? (k :: d) = some (.file i)) : w.read path = .ok (w.content i) := by
  rw [read, node, h.resolve_entry hk (Or.inr ⟨i, hi⟩), entryTarget, hi]

theorem StandsIn.read_missing (h : StandsIn w path k d) (hk : k.utf8ByteSize ≤ maxName)
    (hp : w.nodeAt? (k :: d) = none) : w.read path = .error .notFound := by
  rw [read, node, h.resolve_entry hk (Or.inl hp), entryTarget, hp]

/-! ## Contents -/

theorem content_setContent_self {i : Nat} (hi : i < w.contents.size) (bytes : ByteArray) :
    (w.setContent i bytes).content i = bytes := by
  rw [content, setContent, Array.getD_eq_getD_getElem?, Array.getElem?_setIfInBounds_self_of_lt hi,
    Option.getD_some]

theorem content_setContent_of_ne {i j : Nat} (h : j ≠ i) (bytes : ByteArray) :
    (w.setContent i bytes).content j = w.content j := by
  rw [content, setContent, Array.getD_eq_getD_getElem?, Array.getElem?_setIfInBounds_ne h.symm,
    content, Array.getD_eq_getD_getElem?]

@[simp] theorem nodeAt?_setContent (i : Nat) (bytes : ByteArray) (p : Place) :
    (w.setContent i bytes).nodeAt? p = w.nodeAt? p := rfl

theorem keeps_setContent (i : Nat) (bytes : ByteArray) : Keeps w (w.setContent i bytes) :=
  keeps_of_root_eq rfl rfl

theorem trailEnd_setContent (i : Nat) (bytes : ByteArray) (t : Trail) :
    (w.setContent i bytes).trailEnd t = w.trailEnd t := by
  cases t with
  | nil => rfl
  | cons e t => rfl

theorem walk_setContent (i : Nat) (bytes : ByteArray) (q : Purpose)
    (f : Trail → List String → Except FileFault Target) :
    ∀ (ks : List String) (t : Trail), (w.setContent i bytes).walk q f t ks = w.walk q f t ks
  | [], t => by rw [walk, walk, trailEnd_setContent]
  | k :: ks, t => by
    rw [walk, walk, trailEnd_setContent]
    simp only [walk_setContent i bytes q f ks]

theorem walkLinks_setContent (i : Nat) (bytes : ByteArray) (q : Purpose) :
    ∀ n : Nat, (w.setContent i bytes).walkLinks q n = w.walkLinks q n
  | 0 => funext fun t => funext fun ks => walk_setContent i bytes q _ ks t
  | n + 1 => by
    rw [walkLinks, walkLinks, walkLinks_setContent i bytes q n]
    exact funext fun t => funext fun ks => walk_setContent i bytes q _ ks t

/-- Where a path leads does not depend on what is in the files. -/
theorem resolve_setContent (i : Nat) (bytes : ByteArray) (q : Purpose) (path : String) :
    (w.setContent i bytes).resolve q path = w.resolve q path := by
  rw [resolve, resolve]
  simp only [walkRoute, walkLinks_setContent]
  rfl

theorem wellFormed_setContent (hw : w.WellFormed) (i : Nat) (bytes : ByteArray) :
    (w.setContent i bytes).WellFormed := by
  refine ⟨fun p j hp => ?_, hw.distinct⟩
  have hsize : (w.setContent i bytes).contents.size = w.contents.size :=
    Array.size_setIfInBounds
  rw [hsize]
  exact hw.bound p j hp

/-! ## Making a file -/

section NewFile

variable {es : List (String × Node)}

/-- A new file is a change at its place. -/
theorem changesAt_newFile (hd : w.nodeAt? d = some (.dir es)) (hp : w.Vacant (k :: d)) :
    ChangesAt (k :: d) w (w.newFile d k).2 := by
  have hset := changesAt_setEntry hd hp.bare (Node.bare_file w.contents.size)
  exact ⟨hset.home, hset.alike⟩

theorem nodeAt?_newFile_self (hd : w.nodeAt? d = some (.dir es)) :
    (w.newFile d k).2.nodeAt? (k :: d) = some (.file w.contents.size) :=
  nodeAt?_setEntry_self hd k _

/-- The contents of the files stay, and that of the new one is empty, as if it had been there. -/
theorem content_newFile (j : Nat) : (w.newFile d k).2.content j = w.content j := by
  rw [content, content, newFile]
  dsimp only
  rw [Array.getD_eq_getD_getElem?, Array.getD_eq_getD_getElem?, Array.getElem?_push]
  by_cases hj : j = w.contents.size
  · rw [if_pos hj, hj, Array.getElem?_size, Option.getD_some, Option.getD_none]
  · rw [if_neg hj]

theorem wellFormed_newFile (hw : w.WellFormed) (hd : w.nodeAt? d = some (.dir es))
    (hp : w.Vacant (k :: d)) : (w.newFile d k).2.WellFormed := by
  have hchange := changesAt_newFile hd hp
  have hself := nodeAt?_newFile_self (k := k) hd
  have hsize : (w.newFile d k).2.contents.size = w.contents.size + 1 := Array.size_push _
  have hold : ∀ q i, q ≠ k :: d → (w.newFile d k).2.nodeAt? q = some (.file i) →
      w.nodeAt? q = some (.file i) := fun q i hq h => hchange.nodeAt?_eq_file hq h
  -- The number of the new file is beyond all others.
  have hnew : ∀ q i, (w.newFile d k).2.nodeAt? q = some (.file i) →
      (q = k :: d ∧ i = w.contents.size) ∨ (w.nodeAt? q = some (.file i) ∧ i < w.contents.size) := by
    intro q i hq
    by_cases hqd : q = k :: d
    · rw [hqd, hself, Option.some.injEq, Node.file.injEq] at hq
      exact Or.inl ⟨hqd, hq.symm⟩
    · have hq' := hold q i hqd hq
      exact Or.inr ⟨hq', hw.bound q i hq'⟩
  refine ⟨fun p i hi => ?_, fun p q i hpi hqi => ?_⟩
  · rw [hsize]
    rcases hnew p i hi with ⟨-, hi⟩ | ⟨-, hi⟩ <;> omega
  · rcases hnew p i hpi with ⟨hpd, hi⟩ | ⟨hpi, hi⟩
    · rcases hnew q i hqi with ⟨hqd, -⟩ | ⟨-, hlt⟩
      · rw [hpd, hqd]
      · omega
    · rcases hnew q i hqi with ⟨-, heq⟩ | ⟨hqi, -⟩
      · omega
      · exact hw.distinct p q i hpi hqi

end NewFile

theorem StandsIn.openFile_file (h : StandsIn w path k d) (hk : k.utf8ByteSize ≤ maxName) {i : Nat}
    (hi : w.nodeAt? (k :: d) = some (.file i)) : w.openFile path = .ok (i, w) := by
  rw [openFile, h.resolve_entry hk (Or.inr ⟨i, hi⟩), entryTarget, hi]

theorem StandsIn.openFile_missing (h : StandsIn w path k d) (hk : k.utf8ByteSize ≤ maxName)
    (hp : w.nodeAt? (k :: d) = none) : w.openFile path = .ok (w.newFile d k) := by
  rw [openFile, h.resolve_entry hk (Or.inl hp), entryTarget, hp]

/-! ## Writing and renaming -/

theorem write_error {e : FileFault} (h : w.resolve .create path = .error e) (bytes : ByteArray) :
    w.write path bytes = .error e := by
  rw [write, openFile, h]
  rfl

/-- Where a file cannot be opened, nothing is saved. -/
theorem save_error {e : FileFault} {bytes : ByteArray} {saving : Saving}
    (h : w.write path (saving.part bytes) = .error e) : w.save path bytes saving = (.error e, w) := by
  rw [save, h]

theorem save_ok {w' : Workspace} {bytes : ByteArray} {saving : Saving}
    (h : w.write path (saving.part bytes) = .ok w') :
    w.save path bytes saving = (saving.result, w') := by
  rw [save, h]

/-- A file with a given content is put at a place, and the other files stay as they are. -/
structure Puts (p : Place) (bytes : ByteArray) (w w' : Workspace) : Prop where
  wellFormed : w'.WellFormed
  keeps : Keeps w w'
  file : ∃ i, w'.nodeAt? p = some (.file i) ∧ w'.content i = bytes
  alike : ∀ q, q ≠ p → Node.Alike (w.nodeAt? q) (w'.nodeAt? q)
  content : ∀ q i, q ≠ p → w.nodeAt? q = some (.file i) → w'.content i = w.content i

theorem Puts.nodeAt?_eq {p q : Place} {bytes : ByteArray} {w w' : Workspace} (h : Puts p bytes w w')
    (hq : q ≠ p) (hvac : w.Vacant q) : w'.nodeAt? q = w.nodeAt? q := by
  have hchange : ChangesAt p w w' := ⟨h.keeps.home, h.alike⟩
  exact hchange.nodeAt?_eq hq fun es => hvac.ne_dir es

theorem puts_setContent (hw : w.WellFormed) {p : Place} {i : Nat}
    (hi : w.nodeAt? p = some (.file i)) (bytes : ByteArray) :
    Puts p bytes w (w.setContent i bytes) := by
  refine ⟨wellFormed_setContent hw i bytes, keeps_setContent i bytes,
    ⟨i, hi, content_setContent_self (hw.bound p i hi) bytes⟩, fun q _ => Node.Alike.refl _, ?_⟩
  intro q j hq hj
  refine content_setContent_of_ne (fun hji => hq ?_) bytes
  exact hw.distinct q p i (hji ▸ hj) hi

/-- Writing puts a file where there is a file or nothing. -/
theorem StandsIn.write_ok (h : StandsIn w path k d) (hk : k.utf8ByteSize ≤ maxName)
    (hw : w.WellFormed) (hp : w.Vacant (k :: d)) (bytes : ByteArray) :
    ∃ w', w.write path bytes = .ok w' ∧ Puts (k :: d) bytes w w' := by
  obtain ⟨es, hes⟩ := h.exists_dir
  rcases hp with hp | ⟨i, hi⟩
  · have hput := puts_setContent (wellFormed_newFile hw hes (Or.inl hp))
      (nodeAt?_newFile_self (k := k) hes) bytes
    have hchange := changesAt_newFile hes (Or.inl hp)
    refine ⟨_, by rw [write, h.openFile_missing hk hp]; rfl, hput.wellFormed,
      (hchange.keeps (Or.inl hp)).trans hput.keeps, hput.file,
      fun q hq => (hchange.alike q hq).trans (hput.alike q hq), fun q j hq hj => ?_⟩
    have hj' : (w.newFile d k).2.nodeAt? q = some (.file j) := by
      rw [hchange.nodeAt?_eq hq (by rw [hj]; simp), hj]
    exact (hput.content q j hq hj').trans (content_newFile j)
  · exact ⟨_, by rw [write, h.openFile_file hk hi]; rfl, puts_setContent hw hi bytes⟩

/-- What renaming a file within a directory leaves, if the name it gets is not that of a directory. -/
theorem nodeAt?_moved {es : List (String × Node)} {l : String} {i : Nat}
    (hd : w.nodeAt? d = some (.dir es)) (hkl : k ≠ l) (hk : w.nodeAt? (k :: d) = some (.file i))
    (hl : ∀ fs, w.nodeAt? (l :: d) ≠ some (.dir fs)) :
    ∃ w', w' = (w.modifyAt d (Node.erase k)).setEntry d l (.file i) ∧ w'.home = w.home ∧
      w'.nodeAt? (l :: d) = some (.file i) ∧ w'.nodeAt? (k :: d) = none ∧
      ∀ q, q ≠ k :: d → q ≠ l :: d → Node.Alike (w.nodeAt? q) (w'.nodeAt? q) := by
  have hvac : w.Vacant (k :: d) := Or.inr ⟨i, hk⟩
  have hne : l :: d ≠ k :: d := fun h => hkl (List.cons.inj h).1.symm
  have herase := changesAt_erase hd hvac.bare
  obtain ⟨fs, hfs⟩ := (herase.keeps hvac).dir _ _ hd
  have hbare : Node.Bare ((w.modifyAt d (Node.erase k)).nodeAt? (l :: d)) := by
    rw [herase.nodeAt?_eq hne hl]
    exact Node.bare_of_ne_dir hl
  have hset := changesAt_setEntry hfs hbare (Node.bare_file i)
  refine ⟨_, rfl, hset.home.trans herase.home, nodeAt?_setEntry_self hfs l _, ?_,
    fun q hqk hql => (herase.alike q hqk).trans (hset.alike q hql)⟩
  have hgone := nodeAt?_erase_self hd k
  rw [hset.nodeAt?_eq hne.symm (by rw [hgone]; simp), hgone]

/-- Renaming a file within a directory puts it, with its content, in the place of what is no directory,
and leaves what is elsewhere. -/
theorem StandsIn.rename_replaces {target l : String} (h : StandsIn w path k d)
    (h' : StandsIn w target l d) (hk : k.utf8ByteSize ≤ maxName) (hl : l.utf8ByteSize ≤ maxName)
    (hkl : k ≠ l) (hw : w.WellFormed) {i : Nat} (hi : w.nodeAt? (k :: d) = some (.file i))
    (hdir : ∀ fs, w.nodeAt? (l :: d) ≠ some (.dir fs)) :
    ∃ w', w.rename path target = .ok w' ∧ w'.WellFormed ∧ w'.home = w.home ∧
      w'.nodeAt? (l :: d) = some (.file i) ∧ w'.nodeAt? (k :: d) = none ∧
      w'.contents = w.contents ∧
      ∀ q, q ≠ k :: d → q ≠ l :: d → Node.Alike (w.nodeAt? q) (w'.nodeAt? q) := by
  obtain ⟨es, hes⟩ := h.exists_dir
  obtain ⟨w', hw', hhome, hto, hfrom, halike⟩ := nodeAt?_moved hes hkl hi hdir
  have hcontents : w'.contents = w.contents := by rw [hw']; rfl
  have hold : ∀ q j, w'.nodeAt? q = some (.file j) →
      (q = l :: d ∧ j = i) ∨ (q ≠ k :: d ∧ w.nodeAt? q = some (.file j)) := by
    intro q j hq
    have hqk : q ≠ k :: d := by
      rintro rfl
      rw [hfrom] at hq
      exact absurd hq (by simp)
    by_cases hql : q = l :: d
    · rw [hql, hto, Option.some.injEq, Node.file.injEq] at hq
      exact Or.inl ⟨hql, hq.symm⟩
    · refine Or.inr ⟨hqk, ?_⟩
      rcases halike q hqk hql with he | ⟨-, fs, -, he⟩
      · rw [he, hq]
      · rw [hq] at he
        exact absurd he (by simp)
  refine ⟨w', ?_, ⟨fun q j hq => ?_, fun p q j hpj hqj => ?_⟩, hhome, hto, hfrom, hcontents, halike⟩
  · rw [rename, h.resolveParent_eq, h'.resolveParent_eq]
    dsimp only
    rw [if_neg (Nat.not_lt.mpr hk), hi]
    dsimp only
    rw [if_neg (Nat.not_lt.mpr hl), h.slash, h'.slash, Bool.or_false, if_neg Bool.false_ne_true,
      hw']
    cases hnode : w.nodeAt? (l :: d) with
    | none => rfl
    | some n =>
      cases n with
      | file j => rfl
      | link s => rfl
      | dir fs => exact absurd hnode (hdir fs)
  · rw [hcontents]
    rcases hold q j hq with ⟨-, rfl⟩ | ⟨-, hq⟩
    · exact hw.bound _ _ hi
    · exact hw.bound _ _ hq
  · -- The number that moves was at the place it leaves, and nowhere else.
    rcases hold p j hpj with ⟨hp, hj⟩ | ⟨hpk, hp⟩
    · rcases hold q j hqj with ⟨hq, -⟩ | ⟨hqk, hq⟩
      · rw [hp, hq]
      · exact absurd (hw.distinct q _ i (hj ▸ hq) hi) hqk
    · rcases hold q j hqj with ⟨-, hj⟩ | ⟨-, hq⟩
      · exact absurd (hw.distinct p _ i (hj ▸ hp) hi) hpk
      · exact hw.distinct p q j hp hq

/-- Where there is a file or nothing under the new name, directories and links are kept. -/
theorem StandsIn.rename_ok {target l : String} (h : StandsIn w path k d)
    (h' : StandsIn w target l d) (hk : k.utf8ByteSize ≤ maxName) (hl : l.utf8ByteSize ≤ maxName)
    (hkl : k ≠ l) (hw : w.WellFormed) {i : Nat} (hi : w.nodeAt? (k :: d) = some (.file i))
    (hvac : w.Vacant (l :: d)) :
    ∃ w', w.rename path target = .ok w' ∧ w'.WellFormed ∧ Keeps w w' ∧
      w'.nodeAt? (l :: d) = some (.file i) ∧ w'.nodeAt? (k :: d) = none ∧
      w'.contents = w.contents := by
  obtain ⟨w', hrename, hwf, hhome, hto, hfrom, hcontents, halike⟩ :=
    h.rename_replaces h' hk hl hkl hw hi fun fs => hvac.ne_dir fs
  have hkvac : w.Vacant (k :: d) := Or.inr ⟨i, hi⟩
  refine ⟨w', hrename, hwf, keeps_of_alike hhome fun q n hq hn => ?_, hto, hfrom, hcontents⟩
  exact halike q (hkvac.ne_of_nodeAt? hq hn) (hvac.ne_of_nodeAt? hq hn)

end Workspace
end SinkAudit
