import SinkAudit.Config.Basic
import SinkAudit.Proofs.Json.Codec
import SinkAudit.Proofs.Store.Log
import SinkAudit.Report.Render

/-!
# What is printed can be read back

Everything that is kept or printed as JSON is read back as it was: verdicts, candidates, findings,
counts, listings of rules and settings.  A count is a machine word, and that is the only thing a value
has to satisfy (`Fits`); a reader refuses larger numbers, so what it returns satisfies it too.

A finding is written on one level with its candidate.  Its reader sets the fields that are not its own
aside before the candidate is read from them, which asks a little more of them (`isSetAside`).

* `Candidate.faithful`, `Finding.faithful`, …: each kind of value by itself.
* `Report.findings?_render`: the findings in the printed report.
* `Report.decoding_undoes_encoding`: all of it.
-/

namespace SinkAudit

open Word (count32 count64)

/-! ## Verdicts and rules -/

theorem Verdict.faithful : Faithful Verdict.toJson Verdict.ofJson? (fun _ => True) where
  isPlain _ := rfl
  read_write v _ := ofJson?_toJson v
  fits _ _ _ := trivial

theorem RuleInfo.ofJson?_toJson (r : RuleInfo) : RuleInfo.ofJson? r.toJson = some r := by
  have hseverity : Severity.ofJson? (.text r.severity.name) = some r.severity :=
    Severity.ofJson?_toJson r.severity
  rw [ofJson?, toJson, Record.ofJson?_fields]
  · simp [Record.required, Record.nullable, hseverity]
  · rfl
  · decide

theorem RuleInfo.faithful : Faithful RuleInfo.toJson RuleInfo.ofJson? (fun _ => True) where
  isPlain r := by simp [toJson, Json.object, Json.isPlain, Json.membersPlain, Json.text]
  read_write r _ := ofJson?_toJson r
  fits _ _ _ := trivial

/-! ## Candidates and findings -/

namespace Candidate

/-- The line number is a machine word. -/
def Fits (c : Candidate) : Prop := c.line < count64

/-- A candidate is read from any record that begins with its fields. -/
theorem ofRecord?_members {c : Candidate} (h : c.Fits) (more : List (String × Json)) :
    ofRecord? ⟨false, c.members ++ more⟩ = some c := by
  have hline : (Json.ofNat c.line).word64? = some c.line := Json.natBelow?_ofNat h
  simp [ofRecord?, members, Record.required, hline]

theorem fits_of_ofRecord? {r : Record} {c : Candidate} (h : ofRecord? r = some c) : c.Fits := by
  simp only [ofRecord?, Option.bind_eq_bind, Option.bind_eq_some_iff, Option.pure_def,
    Option.some.injEq] at h
  obtain ⟨_, -, line, hline, _, -, _, -, _, -, _, -, _, -, rfl⟩ := h
  obtain ⟨v, hv⟩ := Record.exists_of_required hline
  exact Json.lt_of_natBelow? hv

theorem faithful : Faithful toJson ofJson? Fits where
  isPlain _ := rfl
  read_write c hc := by
    have hread := ofRecord?_members hc []
    rw [List.append_nil] at hread
    rw [ofJson?, toJson, Record.ofJson?_fields, Option.bind_some, hread]
    · rfl
    · decide
  fits v c h := by
    obtain ⟨r, -, hr⟩ := Option.bind_eq_some_iff.mp h
    exact fits_of_ofRecord? hr

end Candidate

namespace Finding

/-- The line number of the candidate is a machine word. -/
def Fits (f : Finding) : Prop := f.candidate.Fits

/-- The fields that a finding adds to its candidate. -/
def ownMembers (f : Finding) : List (String × Json) :=
  [("severity", f.severity.toJson), ("analysis", .text f.analysis), ("fix_suggestion", .text f.fix)]

theorem toJson_eq (f : Finding) : f.toJson = .object (f.candidate.members ++ f.ownMembers) := rfl

/-- Strings and machine words can be set aside. -/
theorem all_isSetAside {f : Finding} (h : f.Fits) :
    ((f.candidate.members ++ f.ownMembers).map fun m => (some m.1, m.2)).all isSetAside = true := by
  have hline : (Number.nat f.candidate.line).isReadable = true := by
    have hlt : f.candidate.line < count64 := h
    simp [Number.isReadable, Number.isWholeReadable, hlt]
  simp [Candidate.members, ownMembers, isSetAside, ownNames, Json.text, Json.isConcrete, Json.depth,
    Json.ofNat, hline]

theorem ofJson?_toJson {f : Finding} (h : f.Fits) : ofJson? f.toJson = some f := by
  have hrecord : Record.ofJson? (Candidate.fieldNames ++ ownNames) false f.toJson =
      some ⟨false, f.candidate.members ++ f.ownMembers⟩ := by
    rw [toJson_eq]
    exact Record.ofJson?_fields false rfl (by decide)
  have hcandidate := Candidate.ofRecord?_members h f.ownMembers
  have hseverity : (Record.mk false (f.candidate.members ++ f.ownMembers)).get? "severity" =
      some f.severity.toJson := by simp [Candidate.members, ownMembers]
  have hanalysis : (Record.mk false (f.candidate.members ++ f.ownMembers)).get? "analysis" =
      some (.text f.analysis) := by simp [Candidate.members, ownMembers]
  have hfix : (Record.mk false (f.candidate.members ++ f.ownMembers)).get? "fix_suggestion" =
      some (.text f.fix) := by simp [Candidate.members, ownMembers]
  have hguard : (guard (true = true) : Option Unit) = some () := rfl
  rw [toJson_eq, Json.object] at hrecord ⊢
  rw [ofJson?, all_isSetAside h, hguard, hrecord]
  simp [hcandidate, Record.required, hseverity, hanalysis, hfix, Severity.ofJson?_toJson]

theorem faithful : Faithful toJson ofJson? Fits where
  isPlain _ := rfl
  read_write _ hf := ofJson?_toJson hf
  fits v f h := by
    cases v with
    | obj ms =>
      rw [ofJson?] at h
      obtain ⟨_, -, h⟩ := Option.bind_eq_some_iff.mp h
      obtain ⟨r, -, h⟩ := Option.bind_eq_some_iff.mp h
      obtain ⟨c, hc, h⟩ := Option.bind_eq_some_iff.mp h
      obtain ⟨_, -, h⟩ := Option.bind_eq_some_iff.mp h
      obtain ⟨_, -, h⟩ := Option.bind_eq_some_iff.mp h
      obtain ⟨_, -, h⟩ := Option.bind_eq_some_iff.mp h
      obtain rfl := Option.some.inj h
      exact Candidate.fits_of_ofRecord? hc
    | _ => exact absurd h (by simp [ofJson?])

end Finding

/-! ## Counts -/

namespace Stats

/-- Every count is a machine word. -/
structure Fits (s : Stats) : Prop where
  candidates : s.candidates < count64
  unique : s.unique < count64
  cacheHits : s.cacheHits < count64
  classified : s.classified < count64
  failures : s.failures < count64
  confirmed : s.confirmed < count64

theorem ofJson?_toJson {s : Stats} (h : s.Fits) : ofJson? s.toJson = some s := by
  have hword : ∀ {n : Nat}, n < count64 → (Json.ofNat n).word64? = some n :=
    fun hn => Json.natBelow?_ofNat hn
  rw [ofJson?, toJson, Record.ofJson?_fields]
  · simp [Record.required, hword h.candidates, hword h.unique, hword h.cacheHits,
      hword h.classified, hword h.failures, hword h.confirmed]
  · rfl
  · decide

theorem fits_of_ofJson? {v : Json} {s : Stats} (h : ofJson? v = some s) : s.Fits := by
  have hword : ∀ {r : Record} {name : String} {n : Nat},
      r.required name Json.word64? = some n → n < count64 := by
    intro r name n hn
    obtain ⟨w, hw⟩ := Record.exists_of_required hn
    exact Json.lt_of_natBelow? hw
  simp only [ofJson?, Option.bind_eq_bind, Option.bind_eq_some_iff, Option.pure_def,
    Option.some.injEq] at h
  obtain ⟨r, -, _, h1, _, h2, _, h3, _, h4, _, h5, _, h6, rfl⟩ := h
  exact ⟨hword h1, hword h2, hword h3, hword h4, hword h5, hword h6⟩

theorem faithful : Faithful toJson ofJson? Fits where
  isPlain _ := rfl
  read_write _ hs := ofJson?_toJson hs
  fits _ _ h := fits_of_ofJson? h

end Stats

/-! ## Settings -/

/-- Both limits are machine words. -/
structure ScanConfig.Fits (c : ScanConfig) : Prop where
  maxLineLength : c.maxLineLength < count64
  contextLines : c.contextLines < count64

/-- Every number is a machine word, the number of retries a short one. -/
structure ClassifierConfig.Fits (c : ClassifierConfig) : Prop where
  timeoutSecs : c.timeoutSecs < count64
  maxRetries : c.maxRetries < count32
  initialBackoffMs : c.initialBackoffMs < count64
  workers : c.workers < count64

/-- Every number among the settings is a machine word. -/
structure Config.Fits (c : Config) : Prop where
  scan : c.scan.Fits
  classifier : c.classifier.Fits

/-- A number that is read, or its default, is in range. -/
theorem Record.lt_of_defaulted {r : Record} {name : String} {bound d n : Nat}
    (h : r.defaulted name (Json.natBelow? bound) d = some n) (hd : d < bound) : n < bound := by
  rcases eq_or_exists_of_defaulted h with rfl | ⟨v, hv⟩
  · exact hd
  · exact Json.lt_of_natBelow? hv

theorem ScanConfig.faithful : Faithful ScanConfig.toJson (ScanConfig.ofJson? false) Fits where
  isPlain c := by
    simp [toJson, Json.object, Json.isPlain, Json.membersPlain, Json.ofNat]
  read_write c h := by
    have hlength : (Json.ofNat c.maxLineLength).word64? = some c.maxLineLength :=
      Json.natBelow?_ofNat h.maxLineLength
    have hlines : (Json.ofNat c.contextLines).word64? = some c.contextLines :=
      Json.natBelow?_ofNat h.contextLines
    rw [ofJson?, toJson, Record.ofJson?_fields]
    · simp [Record.defaulted, hlength, hlines]
    · rfl
    · decide
  fits v c h := by
    simp only [ofJson?, Option.bind_eq_bind, Option.bind_eq_some_iff, Option.pure_def,
      Option.some.injEq] at h
    obtain ⟨r, -, _, -, _, hlength, _, hlines, _, -, _, -, rfl⟩ := h
    exact ⟨Record.lt_of_defaulted hlength (by decide), Record.lt_of_defaulted hlines (by decide)⟩

theorem CacheConfig.ofJson?_toJson (c : CacheConfig) :
    CacheConfig.ofJson? false c.toJson = some c := by
  rw [ofJson?, toJson, Record.ofJson?_fields]
  · simp [Record.defaulted]
  · rfl
  · decide

theorem ClassifierConfig.faithful :
    Faithful ClassifierConfig.toJson (ClassifierConfig.ofJson? false) Fits where
  isPlain _ := rfl
  read_write c h := by
    have htimeout : (Json.ofNat c.timeoutSecs).word64? = some c.timeoutSecs :=
      Json.natBelow?_ofNat h.timeoutSecs
    have hretries : (Json.ofNat c.maxRetries).word32? = some c.maxRetries :=
      Json.natBelow?_ofNat h.maxRetries
    have hbackoff : (Json.ofNat c.initialBackoffMs).word64? = some c.initialBackoffMs :=
      Json.natBelow?_ofNat h.initialBackoffMs
    have hworkers : (Json.ofNat c.workers).word64? = some c.workers :=
      Json.natBelow?_ofNat h.workers
    rw [ofJson?, toJson, Record.ofJson?_fields]
    · simp [Record.defaulted, htimeout, hretries, hbackoff, hworkers]
    · rfl
    · decide
  fits v c h := by
    simp only [ofJson?, Option.bind_eq_bind, Option.bind_eq_some_iff, Option.pure_def,
      Option.some.injEq] at h
    obtain ⟨r, -, _, -, _, -, _, htimeout, _, hretries, _, hbackoff, _, hworkers, rfl⟩ := h
    exact ⟨Record.lt_of_defaulted htimeout (by decide), Record.lt_of_defaulted hretries (by decide),
      Record.lt_of_defaulted hbackoff (by decide), Record.lt_of_defaulted hworkers (by decide)⟩

/-- Settings are read group by group, and a group that is left out fits too. -/
theorem Config.faithful : Faithful Config.toJson (Config.ofJson? false) Fits where
  isPlain c := by
    have hscan := ScanConfig.faithful.isPlain c.scan
    have hclassifier := ClassifierConfig.faithful.isPlain c.classifier
    have hcache : c.cache.toJson.isPlain = true := rfl
    simp [toJson, Json.object, Json.isPlain, Json.membersPlain, hscan, hcache, hclassifier]
  read_write c h := by
    rw [ofJson?, toJson, Record.ofJson?_fields]
    · simp [Record.defaulted, ScanConfig.faithful.read_write c.scan h.scan,
        CacheConfig.ofJson?_toJson c.cache,
        ClassifierConfig.faithful.read_write c.classifier h.classifier]
    · rfl
    · decide
  fits v c h := by
    simp only [ofJson?, Option.bind_eq_bind, Option.bind_eq_some_iff, Option.pure_def,
      Option.some.injEq] at h
    obtain ⟨r, -, scan, hscan, cache, -, classifier, hclassifier, rfl⟩ := h
    have hscanDefault : ScanConfig.Fits {} := ⟨by decide, by decide⟩
    have hclassifierDefault : ClassifierConfig.Fits {} :=
      ⟨by decide, by decide, by decide, by decide⟩
    constructor
    · rcases Record.eq_or_exists_of_defaulted hscan with rfl | ⟨w, hw⟩
      · exact hscanDefault
      · exact ScanConfig.faithful.fits w scan hw
    · rcases Record.eq_or_exists_of_defaulted hclassifier with rfl | ⟨w, hw⟩
      · exact hclassifierDefault
      · exact ClassifierConfig.faithful.fits w classifier hw

/-! ## Reports -/

namespace Report

/-- The findings that the text of a report has. -/
def findings? (text : String) : Option (List Finding) := do
  let v ← Json.parse? text
  let r ← Record.ofJson? ["findings"] false v
  r.required "findings" (Json.list? Finding.ofJson?)

theorem isPlain_toJson (r : Report) : r.toJson.isPlain = true := by
  have hfindings : Json.allPlain (r.findings.map Finding.toJson) = true :=
    allPlain_map Finding.faithful.isPlain r.findings
  have hstats : r.stats.toJson.isPlain = true := rfl
  simp [toJson, Json.object, Json.isPlain, Json.membersPlain, Json.text, Json.ofNat, hfindings,
    hstats]

/-- The printed report has its findings. -/
theorem findings?_render (guid : String) {r : Report} (h : ∀ f ∈ r.findings, f.Fits) :
    ∃ text, r.render guid .json = .ok text ∧ findings? text = some r.findings := by
  have hlist : Json.list? Finding.ofJson? (.arr (r.findings.map Finding.toJson)) =
      some r.findings := Finding.faithful.list.read_write r.findings h
  refine ⟨r.toJson.pretty, rfl, ?_⟩
  rw [findings?, Json.parse?_pretty _ r.isPlain_toJson, toJson]
  simp only [Option.bind_eq_bind, Option.bind_some]
  rw [Record.ofJson?_object]
  · simp [Record.required, hlist]
  · show ["target", "scanned_at", "candidates", "stats", "findings"].Nodup
    decide

/-- **Decoding undoes encoding.**  Every kind of value that is kept or printed is read back from its
text in either layout, and a text of it that was read and written again is read and written as
itself; and the printed findings, alone and in a report, are read as the findings. -/
theorem decoding_undoes_encoding :
    RoundTrips Verdict.toJson Verdict.ofJson? (fun _ => True) ∧
    RoundTrips Candidate.toJson Candidate.ofJson? Candidate.Fits ∧
    RoundTrips Finding.toJson Finding.ofJson? Finding.Fits ∧
    RoundTrips Stats.toJson Stats.ofJson? Stats.Fits ∧
    RoundTrips RuleInfo.toJson RuleInfo.ofJson? (fun _ => True) ∧
    RoundTrips Config.toJson (Config.ofJson? false) Config.Fits ∧
    (∀ findings : List Finding, (∀ f ∈ findings, f.Fits) →
      decode (Json.list? Finding.ofJson?) (renderFindings findings) = some findings) ∧
    ∀ (guid : String) (r : Report), (∀ f ∈ r.findings, f.Fits) →
      ∃ text, r.render guid .json = .ok text ∧ findings? text = some r.findings := by
  refine ⟨Verdict.faithful.roundTrips, Candidate.faithful.roundTrips, Finding.faithful.roundTrips,
    Stats.faithful.roundTrips, RuleInfo.faithful.roundTrips, Config.faithful.roundTrips, ?_, ?_⟩
  · intro findings hfits
    exact Finding.faithful.list.decode_text .pretty hfits
  · intro guid r hfits
    exact findings?_render guid hfits

/-- A finding on the last possible line, with quotes, backslashes, control characters and characters
beyond the first plane in its texts. -/
def oddFinding : Finding where
  candidate := ⟨"a \"b\"\\c.js", 18446744073709551615, "XSS", "\x00\x1f\x7f", "   1 | > é\n", "\\.x\\s*=",
    "😀"⟩
  severity := .critical
  analysis := "\x08\x0c\r\n\t / \\u0041 \u2028"
  fix := ""

/-- The text of a verdict that gives no reasons. -/
def bareVerdict : String :=
  "\x7b\"is_vulnerable\":true,\"severity\":\"Critical\",\"reasoning\":\"\",\"fix\":\"\"\x7d"

/-- Counts and settings at the ends of their ranges, and a verdict given as a list with a severity in
another spelling. -/
theorem decoding_undoes_encoding_odd :
    oddFinding.Fits ∧
    decode Finding.ofJson? (Layout.pretty.text oddFinding.toJson) = some oddFinding ∧
    decode Candidate.ofJson? (Layout.compact.text oddFinding.candidate.toJson) =
      some oddFinding.candidate ∧
    decode (Json.list? Finding.ofJson?) (renderFindings [oddFinding, oddFinding]) =
      some [oddFinding, oddFinding] ∧
    (∃ text, Report.render "guid" ⟨"/ws", ⟨0, 0⟩, 1, [oddFinding], {}, []⟩ .json = .ok text ∧
      findings? text = some [oddFinding]) ∧
    decode Stats.ofJson? (Layout.compact.text (Stats.mk 0 0 0 0 0 18446744073709551615).toJson) =
      some (Stats.mk 0 0 0 0 0 18446744073709551615) ∧
    decode (Config.ofJson? false)
        (Layout.pretty.text (Config.toJson { classifier := { maxRetries := 4294967295 } })) =
      some { classifier := { maxRetries := 4294967295 } } ∧
    recode Verdict.toJson Verdict.ofJson? .compact "[true,\" CRIT\"]" =
      some bareVerdict ∧
    recode Verdict.toJson Verdict.ofJson? .compact bareVerdict = some bareVerdict := by
  obtain ⟨hverdict, hcandidate, hfinding, hstats, -, hconfig, hlist, hreport⟩ :=
    decoding_undoes_encoding
  have hodd : oddFinding.Fits := by
    show (18446744073709551615 : Nat) < 18446744073709551616
    decide
  have hlisted : recode Verdict.toJson Verdict.ofJson? .compact "[true,\" CRIT\"]" =
      some bareVerdict := by
    decide +kernel
  refine ⟨hodd, hfinding.decode_text .pretty _ hodd, hcandidate.decode_text .compact _ hodd,
    hlist _ ?_, hreport _ _ ?_, hstats.decode_text _ _ ?_, hconfig.decode_text _ _ ?_, hlisted,
    hverdict.recode_recode _ _ _ hlisted⟩
  · simp [hodd]
  · simp [hodd]
  · constructor <;> decide
  · exact ⟨⟨by decide, by decide⟩, ⟨by decide, by decide, by decide, by decide⟩⟩

end Report

end SinkAudit
