import SinkAudit.Proofs.Json.Lexing
import SinkAudit.Proofs.Rule.Catalog
import SinkAudit.Proofs.Scan.Content
import SinkAudit.Proofs.Scan.Window

/-!
# What a signature stands for

A verdict is kept under a signature and given to every candidate that has it.  The signature is the
digest of a message, which is the id of a rule and a window.  Both can be read off the message: no id
of a built-in rule has the separator in it.  The window gives the number of the line and its body,
and these give the rest, since neither the trimmed line nor the pattern that a rule finds depends on
how the line ended.

* `hex_injective`, `toUTF8_injective`: neither way of writing loses anything.
* `Candidate.message`: what the signature is a digest of.
* `Scanner.agree_of_signature_eq`: candidates with one signature differ in their files alone, unless
  their messages collide.
-/

namespace SinkAudit

/-! ## Bytes and their texts -/

namespace Digest

theorem hexDigit_inj {m n : Nat} (hm : m < 16) (hn : n < 16) (h : hexDigit m = hexDigit n) :
    m = n := by
  have hdigit := (Lexer.hexDigit?_hexDigit hm).1
  rw [h, (Lexer.hexDigit?_hexDigit hn).1] at hdigit
  exact (Option.some.inj hdigit).symm

theorem hexByte_injective {a b : UInt8} (h : hexByte a = hexByte b) : a = b := by
  have ha : a.toNat < 256 := a.toNat_lt
  have hb : b.toNat < 256 := b.toNat_lt
  obtain ⟨hhigh, hlow⟩ := List.cons.inj h
  have hhigh := hexDigit_inj (by omega) (by omega) hhigh
  have hlow := hexDigit_inj (by omega) (by omega) (List.cons.inj hlow).1
  exact UInt8.toNat_inj.mp (by omega)

/-- Different bytes have different digits. -/
theorem hex_injective {as bs : List UInt8} (h : hex as = hex bs) : as = bs := by
  have hchars : as.flatMap hexByte = bs.flatMap hexByte := String.ofList_injective h
  clear h
  induction as generalizing bs with
  | nil =>
    cases bs with
    | nil => rfl
    | cons b bs => cases hchars
  | cons a as ih =>
    cases bs with
    | nil => cases hchars
    | cons b bs =>
      rw [List.flatMap_cons, List.flatMap_cons] at hchars
      obtain ⟨hbyte, hrest⟩ := List.append_inj hchars rfl
      rw [hexByte_injective hbyte, ih hrest]

end Digest

/-- The bytes from an index on are put behind those that are done. -/
theorem toList_loop (bytes : ByteArray) (i : Nat) (done : List UInt8) :
    ByteArray.toList.loop bytes i done = done.reverse ++ bytes.data.toList.drop i := by
  fun_induction ByteArray.toList.loop bytes i done with
  | case1 i done hi ih =>
    have hlt : i < bytes.data.toList.length := hi
    have hget : bytes.get! i = bytes.data.toList[i] := getElem!_pos bytes.data i hi
    rw [ih, List.drop_eq_getElem_cons hlt, hget, List.reverse_cons, List.append_assoc,
      List.singleton_append]
  | case2 i done hi =>
    have hle : bytes.data.toList.length ≤ i := Nat.le_of_not_lt hi
    rw [List.drop_of_length_le hle, List.append_nil]

/-- Different texts have different bytes. -/
theorem toUTF8_injective {s t : String} (h : s.toUTF8.toList = t.toUTF8.toList) : s = t := by
  rw [ByteArray.toList, ByteArray.toList, toList_loop, toList_loop] at h
  have hdata : s.toUTF8.data = t.toUTF8.data := Array.toList_inj.mp h
  exact String.toByteArray_inj.mp (ByteArray.ext hdata)

/-! ## Messages -/

/-- What ends the id of a rule in a message. -/
def idEnd : UInt8 := 0x1f

namespace Candidate

/-- The message of a candidate, whose digest is its signature. -/
def message (c : Candidate) : List UInt8 :=
  c.ruleId.toUTF8.toList ++ idEnd :: c.snippet.toUTF8.toList

theorem signature_eq (c : Candidate) : c.signature = Digest.hex (Digest.sha256 c.message) := by
  rw [signature, SinkAudit.signature, List.append_assoc]
  rfl

/-- The id and the window can be read off a message whose id is free of the separator. -/
theorem message_inj {c c' : Candidate} (hc : idEnd ∉ c.ruleId.toUTF8.toList)
    (hc' : idEnd ∉ c'.ruleId.toUTF8.toList) (h : c.message = c'.message) :
    c.ruleId = c'.ruleId ∧ c.snippet = c'.snippet := by
  have hfree : ∀ {bytes : List UInt8}, idEnd ∉ bytes → ∀ b ∈ bytes, (b != idEnd) = true :=
    fun hb b hmem => bne_iff_ne.mpr fun he => hb (he ▸ hmem)
  have hend : (idEnd != idEnd) = false := rfl
  obtain ⟨hid, hwindow⟩ := Text.append_cons_inj (hfree hc) hend (hfree hc') hend h
  exact ⟨toUTF8_injective hid, toUTF8_injective (List.cons.inj hwindow).2⟩

end Candidate

theorem idEnd_notMem_of_mem_builtin {r : Rule} (hr : r ∈ Catalog.builtin.rules) :
    idEnd ∉ r.id.toUTF8.toList := by
  have hall : ∀ id ∈ builtinInfos.map (·.id), idEnd ∉ id.toUTF8.toList := by decide +kernel
  exact hall r.id (Catalog.id_mem_of_mem_builtin hr)

/-! ## Signatures -/

namespace Scanner

/-- A candidate of the built-in rules is what one of them makes of a line. -/
theorem exists_claim_of_mem {config : ScanConfig} {path content : String} {c : Candidate}
    (h : c ∈ (builtin config).sightings path content) :
    ∃ index line rule pattern, (Scan.Line.split content)[index]? = some line ∧
      rule ∈ Catalog.builtin.rules ∧ rule.matchingPattern line = some pattern ∧
        c = (builtin config).claim path (Scan.Line.split content) index line rule pattern := by
  obtain ⟨index, line, hline, hsighting⟩ := mem_sightings.mp h
  obtain ⟨-, rule, pattern, hmatch, hc⟩ := sighting?_eq_some_iff.mp hsighting
  obtain ⟨hrule, hpattern⟩ := Catalog.of_matchLine_eq_some hmatch
  have hbuiltin : rule ∈ Catalog.builtin.rules := (Catalog.mem_without.mp hrule).1
  exact ⟨index, line, rule, pattern, hline, hbuiltin, hpattern, hc⟩

/-- A built-in rule finds the same pattern in lines with the same body. -/
theorem matchingPattern_eq_of_body_eq {rule : Rule} (hrule : rule ∈ Catalog.builtin.rules)
    {line line' : String} (h : Scan.Line.body line = Scan.Line.body line') :
    rule.matchingPattern line = rule.matchingPattern line' := by
  rw [← Catalog.matchingPattern_trim hrule line, ← Scan.Line.trim_body, h, Scan.Line.trim_body,
    Catalog.matchingPattern_trim hrule line']

/-- **Signatures are sound.**  Candidates with one signature are the same but for their files,
whatever texts and settings they come from, unless the digests of two different messages collide. -/
theorem agree_of_signature_eq {config config' : ScanConfig} {path path' content content' : String}
    {c c' : Candidate} (hc : (builtin config).Reports path content c)
    (hc' : (builtin config').Reports path' content' c')
    (hdigest : Digest.sha256 c.message = Digest.sha256 c'.message → c.message = c'.message)
    (hsignature : c.signature = c'.signature) : { c with file := c'.file } = c' := by
  rw [Candidate.signature_eq, Candidate.signature_eq] at hsignature
  have hmessage := hdigest (Digest.hex_injective hsignature)
  obtain ⟨index, line, rule, pattern, hline, hrule, hpattern, rfl⟩ :=
    exists_claim_of_mem (reports_iff.mp hc).2
  obtain ⟨index', line', rule', pattern', hline', hrule', hpattern', rfl⟩ :=
    exists_claim_of_mem (reports_iff.mp hc').2
  obtain ⟨hid, hsnippet⟩ := Candidate.message_inj (idEnd_notMem_of_mem_builtin hrule)
    (idEnd_notMem_of_mem_builtin hrule') hmessage
  obtain rfl : rule = rule' := Catalog.builtin_eq_of_id_eq hrule hrule' hid
  -- The windows agree, hence the numbers and the bodies of the two lines.
  obtain ⟨rfl, hbody⟩ := Scan.Window.eq_of_plain_eq hline hline' hsnippet
  -- The rest is found in the bodies.
  have htrim : Text.trim line = Text.trim line' := by
    rw [← Scan.Line.trim_body, hbody, Scan.Line.trim_body]
  have hfound : pattern = pattern' := by
    rw [matchingPattern_eq_of_body_eq hrule hbody, hpattern'] at hpattern
    exact (Option.some.inj hpattern).symm
  rw [claim, claim, Candidate.mk.injEq]
  exact ⟨rfl, rfl, rfl, rfl, hsnippet, hfound, htrim⟩

/-- A call on the second line of a file. -/
def callIn (file : String) : Candidate :=
  ⟨file, 2, "CODE_INJECTION", "Code Injection", "   1 |   let y\n   2 | > eval(y)\n", "eval\\(",
    "eval(y)"⟩

/-- Two files with different line endings, and one rule disabled for the second. -/
theorem agree_of_signature_eq_call :
    (builtin {}).Reports "a.js" "let y\neval(y)\n" (callIn "a.js") ∧
      (builtin { disabledRules := ["XSS"] }).Reports "b.js" "let y\r\neval(y)\r" (callIn "b.js") ∧
      { callIn "a.js" with file := "b.js" } = callIn "b.js" := by
  have hmem : callIn "a.js" ∈ (builtin {}).sightings "a.js" "let y\neval(y)\n" ∧
      callIn "b.js" ∈
        (builtin { disabledRules := ["XSS"] }).sightings "b.js" "let y\r\neval(y)\r" := by
    decide +kernel
  have ha : (builtin {}).Reports "a.js" "let y\neval(y)\n" (callIn "a.js") :=
    reports_iff.mpr ⟨fits_of_length (by decide), hmem.1⟩
  have hb : (builtin { disabledRules := ["XSS"] }).Reports "b.js" "let y\r\neval(y)\r"
      (callIn "b.js") :=
    reports_iff.mpr ⟨fits_of_length (by decide), hmem.2⟩
  exact ⟨ha, hb, agree_of_signature_eq ha hb (fun _ => rfl) rfl⟩

end Scanner

end SinkAudit
