import TopicHealth.Report

/-!
# Reading reports back

The text of an unhealthy report is in one piece, but nothing is lost in it: commas and spaces stand between services
only, brackets and plus signs around the reasons only. Cut at these marks, the text gives back every service that fails
with its three verdicts.

* `Text.parts_intercalate`: a text that is put together from parts, cut again.
* `Health.read?_text`, `Report.readFailing?_failingText`: one service, and all that fail.
* `Report.failingText_inj`: texts of different parts that fail are different.
-/

namespace TopicHealth

/-! ## Cutting -/

namespace Text

/-- The parts of a text between marks, without the empty ones. -/
def parts (mark : Char → Bool) (text : List Char) : List (List Char) :=
  (text.splitOnP mark).filter fun part => !part.isEmpty

/-- A text that is not empty and has no mark. -/
def isPlain (mark : Char → Bool) (text : List Char) : Bool := !text.isEmpty && text.all fun c => !mark c

variable {mark : Char → Bool} {text rest : List Char} {c : Char}

theorem isPlain_iff : isPlain mark text = true ↔ text ≠ [] ∧ ∀ x ∈ text, mark x = false := by
  rw [isPlain, Bool.and_eq_true, Bool.not_eq_true', List.isEmpty_eq_false_iff, List.all_eq_true]
  simp only [Bool.not_eq_true']

theorem parts_nil : parts mark [] = [] := rfl

theorem parts_cons (hc : mark c = true) : parts mark (c :: rest) = parts mark rest := by
  have h : (c :: rest).splitOnP mark = [] :: rest.splitOnP mark := List.splitOnP_append_cons [] rest hc
  rw [parts, h]
  rfl

theorem parts_concat (hc : mark c = true) : parts mark (text ++ [c]) = parts mark text := by
  rw [parts, List.splitOnP_append_cons text [] hc, List.splitOnP_nil, List.filter_append]
  exact List.append_nil _

/-- A piece ends at the first mark after it. -/
theorem parts_append (htext : isPlain mark text = true) (hc : mark c = true) :
    parts mark (text ++ c :: rest) = text :: parts mark rest := by
  obtain ⟨hne, hplain⟩ := isPlain_iff.mp htext
  rw [parts, List.splitOnP_append_cons_of_forall_mem hplain c hc, List.filter_cons_of_pos]
  · rfl
  · simpa using hne

theorem parts_of_isPlain (htext : isPlain mark text = true) : parts mark text = [text] := by
  obtain ⟨hne, hplain⟩ := isPlain_iff.mp htext
  rw [parts, List.splitOnP_eq_singleton hplain, List.filter_cons_of_pos]
  · rfl
  · simpa using hne

/-- Marks between the parts make no parts of their own. -/
theorem parts_append_of_marks {gap : List Char} (hgap : ∀ x ∈ gap, mark x = true) :
    parts mark (gap ++ rest) = parts mark rest := by
  induction gap with
  | nil => rfl
  | cons c gap ih =>
    obtain ⟨hc, hrest⟩ := List.forall_mem_cons.mp hgap
    rw [List.cons_append, parts_cons hc, ih hrest]

/-- What is put together from plain parts, with marks between them, is cut into those parts. -/
theorem parts_intercalate {gap : List Char} (hgap : gap ≠ []) (hmarks : ∀ x ∈ gap, mark x = true)
    {pieces : List (List Char)} (hpieces : ∀ piece ∈ pieces, isPlain mark piece = true) :
    parts mark (gap.intercalate pieces) = pieces := by
  induction pieces with
  | nil => rw [List.intercalate_nil, parts_nil]
  | cons piece pieces ih =>
    obtain ⟨hpiece, hrest⟩ := List.forall_mem_cons.mp hpieces
    cases pieces with
    | nil => rw [List.intercalate_singleton, parts_of_isPlain hpiece]
    | cons next pieces =>
      obtain ⟨c, gap, rfl⟩ := List.exists_cons_of_ne_nil hgap
      obtain ⟨hc, hmore⟩ := List.forall_mem_cons.mp hmarks
      rw [List.intercalate_cons_cons, List.append_assoc, List.cons_append, parts_append hpiece hc,
        parts_append_of_marks hmore, ih hrest]

end Text

/-! ## One service -/

namespace Health

/-- The marks around the reasons of a service. -/
def isBracket (c : Char) : Bool := c = '(' || c = '+' || c = ')'

/-- Reads a service with its reasons. -/
def read? (text : List Char) : Option Health :=
  match Text.parts isBracket text with
  | name :: reasons => (Service.ofName? (String.ofList name)).map fun s =>
    ⟨s, !reasons.contains "dead".toList, !reasons.contains "slow".toList, !reasons.contains "invalid".toList⟩
  | [] => none

/-- Brackets and plus signs are around the name and the reasons, not in them. -/
theorem isPlain_name (s : Service) : Text.isPlain isBracket s.name.toList = true := by
  cases s <;> rfl

theorem isPlain_reasons (h : Health) : ∀ piece ∈ h.reasons.map String.toList, Text.isPlain isBracket piece = true := by
  rw [← List.all_eq_true, reasons]
  cases h.alive <;> cases h.freqOk <;> cases h.valid <;> rfl

/-- The text of a service falls into its name and its reasons. -/
theorem parts_text (h : Health) :
    Text.parts isBracket h.text.toList = h.service.name.toList :: h.reasons.map String.toList := by
  have htext : h.text.toList =
      h.service.name.toList ++ '(' :: (['+'].intercalate (h.reasons.map String.toList) ++ [')']) := by
    simp only [text, String.toList_append, String.toList_intercalate, List.append_assoc]
    rfl
  rw [htext, Text.parts_append (isPlain_name h.service) rfl, Text.parts_concat rfl,
    Text.parts_intercalate (List.cons_ne_nil _ _) (List.forall_mem_singleton.mpr rfl) h.isPlain_reasons]

/-- A service and its verdicts are read from its text. -/
theorem read?_text (h : Health) : read? h.text.toList = some h := by
  rw [read?, parts_text]
  dsimp only
  rw [String.ofList_toList, Service.ofName?_name, Option.map_some]
  obtain ⟨s, alive, freqOk, valid⟩ := h
  cases alive <;> cases freqOk <;> cases valid <;> rfl

/-- The reasons are the words for the verdicts that are bad. -/
theorem mem_reasons_iff {h : Health} {reason : String} : reason ∈ h.reasons ↔
    h.alive = false ∧ reason = "dead" ∨ h.freqOk = false ∧ reason = "slow" ∨ h.valid = false ∧ reason = "invalid" := by
  rw [reasons]
  cases h.alive <;> cases h.freqOk <;> cases h.valid <;> simp

/-- A service that is not healthy has a reason. -/
theorem reasons_ne_nil {h : Health} (hfails : h.isHealthy = false) : h.reasons ≠ [] := by
  revert hfails
  rw [isHealthy, reasons]
  cases h.alive <;> cases h.freqOk <;> cases h.valid <;> decide

end Health

/-! ## All that fail -/

namespace Report

/-- The marks between services. -/
def isGap (c : Char) : Bool := c = ',' || c = ' '

/-- Reads the services of a text, with the verdicts on each. -/
def readFailing? (text : String) : Option (List Health) := (Text.parts isGap text.toList).mapM Health.read?

/-- Commas and spaces are between services only. -/
theorem isPlain_text (h : Health) : Text.isPlain isGap h.text.toList = true := by
  have hname : (h.service.name.toList.all fun c => !isGap c) = true := by
    cases h.service <;> rfl
  have hreasons : (("(" ++ "+".intercalate h.reasons ++ ")").toList.all fun c => !isGap c) = true := by
    rw [Health.reasons]
    cases h.alive <;> cases h.freqOk <;> cases h.valid <;> rfl
  have htext : h.text.toList = h.service.name.toList ++ ("(" ++ "+".intercalate h.reasons ++ ")").toList := by
    simp only [Health.text, String.toList_append, List.append_assoc]
  rw [Text.isPlain, htext, List.all_append, hname, hreasons]
  simp

theorem mapM_read? (services : List Health) :
    (services.map fun h => h.text.toList).mapM Health.read? = some services := by
  induction services with
  | nil => rfl
  | cons h services ih =>
    rw [List.map_cons, List.mapM_cons, Health.read?_text, ih]
    rfl

/-- All services that fail are read from the text of a report, in their order and with their verdicts. -/
theorem readFailing?_failingText (r : Report) : readFailing? r.failingText = some r.failing := by
  have hpieces : ∀ piece ∈ r.failing.map fun h => h.text.toList, Text.isPlain isGap piece = true :=
    List.forall_mem_map.mpr fun h _ => isPlain_text h
  have htext : r.failingText.toList = [',', ' '].intercalate (r.failing.map fun h => h.text.toList) := by
    rw [failingText, String.toList_intercalate, List.map_map]
    rfl
  have hmarks : ∀ x ∈ [',', ' '], isGap x = true :=
    List.forall_mem_cons.mpr ⟨rfl, List.forall_mem_singleton.mpr rfl⟩
  rw [readFailing?, htext, Text.parts_intercalate (List.cons_ne_nil _ _) hmarks hpieces, mapM_read?]

/-- The text can be read back, so that it tells all that fails. -/
theorem failingText_inj {r r' : Report} : r.failingText = r'.failingText ↔ r.failing = r'.failing := by
  constructor
  · intro h
    have hread := r.readFailing?_failingText
    rw [h, r'.readFailing?_failingText] at hread
    exact (Option.some.inj hread).symm
  · intro h
    rw [failingText, failingText, h]

end Report

end TopicHealth
