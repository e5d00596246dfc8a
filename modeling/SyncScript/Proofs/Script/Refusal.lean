import SyncScript.Proofs.Plan.Rules
import SyncScript.Proofs.Script.Layout
import SyncScript.Proofs.Text.Quoted

/-!
# Refusals

The text of a refusal has a first line with the number of faults, and a line for each fault. Package
names come from outside and may hold line ends, but a message shows them quoted. So no name adds a
line to the text, and the messages, and the names in them, are read back from it.
-/

namespace SyncScript

namespace Text

/-- All characters of the text show. -/
def Shows (s : String) : Prop :=
  ∀ c ∈ s.toList, isHidden c = false

lemma Shows.append {a b : String} (ha : Shows a) (hb : Shows b) : Shows (a ++ b) := by
  intro c hc
  rw [String.toList_append, List.mem_append] at hc
  rcases hc with hc | hc
  · exact ha c hc
  · exact hb c hc

lemma shows_of_all {s : String} (h : s.toList.all (! isHidden ·) = true) : Shows s := by
  intro c hc
  simpa using List.all_eq_true.1 h c hc

lemma shows_quoted (s : String) : Shows (quoted s) :=
  fun _ => isHidden_eq_false_of_mem_quoted

/-- The text takes a single line: it holds no control character, line ends among them, and neither a
line separator nor a paragraph separator. -/
def IsSingleLine (s : String) : Prop :=
  ∀ c ∈ s.toList, isControl c = false ∧ c ≠ '\u2028' ∧ c ≠ '\u2029'

/-- The two separators stand in the table of characters that do not show. -/
lemma isHidden_separators : isHidden '\u2028' = true ∧ isHidden '\u2029' = true := by
  decide +kernel

lemma Shows.isSingleLine {s : String} (h : Shows s) : IsSingleLine s := by
  have hne : ∀ d, isHidden d = true → ∀ c ∈ s.toList, c ≠ d := by
    rintro d hd c hc rfl
    rw [h c hc] at hd
    cases hd
  intro c hc
  have hcontrol : isControl c ≠ true := fun hcontrol =>
    hne c (isHidden_of_isControl hcontrol) c hc rfl
  exact ⟨Bool.eq_false_iff.2 hcontrol, hne _ isHidden_separators.1 c hc,
    hne _ isHidden_separators.2 c hc⟩

lemma IsSingleLine.not_mem {s : String} (h : IsSingleLine s) : '\n' ∉ s.toList ∧ '\r' ∉ s.toList :=
  ⟨fun hmem => absurd (h _ hmem).1 (by decide), fun hmem => absurd (h _ hmem).1 (by decide)⟩

end Text

open Text

/-! ### Messages -/

lemma EndpointFault.shows_reason (fault : EndpointFault) : Shows fault.reason := by
  apply shows_of_all
  unfold reason
  cases fault with
  | gitSchemeUnknown =>
    simp only [gitSchemes, String.toList_append, String.toList_intercalate, List.map_cons,
      List.map_nil]
    repeat rw [String.toList_ofList]
    decide
  | _ =>
    rw [String.toList_ofList]
    decide

lemma EndpointFault.shows_message {label : String} (h : Shows label) (fault : EndpointFault) :
    Shows (fault.message label) :=
  (h.append (shows_of_all (by decide))).append fault.shows_reason

/-- What stands ahead of the name in a message about a package. -/
def packageMessageStart (label : String) : String :=
  label ++ ": Python package "

def packageMessageEnd : String :=
  " must not contain whitespace or control characters."

lemma packageMessage_eq (label name : String) :
    packageMessage label name =
      packageMessageStart label ++ quoted name ++ packageMessageEnd :=
  rfl

lemma shows_packageMessage {label : String} (h : Shows label) (name : String) :
    Shows (packageMessage label name) := by
  have hstart : Shows (packageMessageStart label) := h.append (shows_of_all (by decide))
  have hend : Shows packageMessageEnd := by
    apply shows_of_all
    rw [packageMessageEnd, String.toList_ofList]
    decide
  rw [packageMessage_eq]
  exact (hstart.append (shows_quoted name)).append hend

/-- No message holds a character that does not show, whatever the name of the package is. -/
lemma PlanFault.shows_message (fault : PlanFault) : Shows fault.message := by
  cases fault with
  | source fault => exact fault.shows_message (shows_of_all (by decide))
  | target fault => exact fault.shows_message (shows_of_all (by decide))
  | package name => exact shows_packageMessage (shows_of_all (by decide)) name

/-- The name that a message about a package is about. -/
def packageName? (label message : String) : Option String := do
  let rest ← message.toList.dropPrefix? (packageMessageStart label).toList
  let (name, rest) ← unquote? rest
  if rest = packageMessageEnd.toList then some name else none

lemma dropPrefix?_append (start rest : List Char) :
    (start ++ rest).dropPrefix? start = some rest :=
  List.dropPrefix?_eq_some_iff.2 ⟨_, rfl, beq_self_eq_true _⟩

/-- The same start is dropped from every text of a list. -/
lemma mapM_dropPrefix? (start : List Char) (texts : List (List Char)) :
    (texts.map (start ++ ·)).mapM (·.dropPrefix? start) = some texts := by
  induction texts with
  | nil => rfl
  | cons text texts ih =>
    rw [List.map_cons, List.mapM_cons, dropPrefix?_append, ih]
    rfl

lemma packageName?_packageMessage (label name : String) :
    packageName? label (packageMessage label name) = some name := by
  unfold packageName?
  rw [packageMessage_eq, String.toList_append, String.toList_append, List.append_assoc,
    dropPrefix?_append]
  simp only [Option.bind_eq_bind, Option.bind_some, unquote?_quoted, if_true]

/-! ### The text of a refusal -/

lemma compile_eq_error_iff (p : Plan) (e : CompileError) :
    compile p = .error e ↔ p.faults ≠ [] ∧ e = ⟨p.faults⟩ := by
  unfold compile
  cases h : p.faults with
  | nil => simp
  | cons fault faults => simp [eq_comm]

namespace CompileError

/-- The line that counts the faults. -/
def countLine (e : CompileError) : String :=
  "plan has " ++ toString e.faults.length ++ " invalid setting(s):"

/-- The line for a fault. -/
def itemLine (message : String) : String :=
  "  - " ++ message

def messageLines (e : CompileError) : List String :=
  e.countLine :: e.faults.map fun fault => itemLine fault.message

/-- Items that follow each other with their marks are lines with a mark on each. -/
lemma unlines_itemLines {messages : List String} (h : messages ≠ []) :
    unlines (messages.map itemLine) = "  - " ++ "\n  - ".intercalate messages := by
  induction messages with
  | nil => exact absurd rfl h
  | cons message messages ih =>
    by_cases hrest : messages = []
    · simp [hrest, unlines, itemLine]
    · have hmap : messages.map itemLine ≠ [] := by simpa using hrest
      have hmark : "\n  - " = "\n" ++ "  - " := by decide
      rw [List.map_cons, unlines, String.intercalate_cons_of_ne_nil hmap,
        String.intercalate_cons_of_ne_nil hrest, ← unlines, ih hrest, itemLine, hmark]
      simp only [String.append_assoc]

lemma message_eq_unlines {e : CompileError} (h : e.faults ≠ []) :
    e.message = unlines e.messageLines := by
  have hmessages : e.faults.map PlanFault.message ≠ [] := by simpa using h
  have hitems : e.messageLines = e.countLine :: (e.faults.map PlanFault.message).map itemLine := by
    rw [messageLines, List.map_map]
    rfl
  have hend : " invalid setting(s):\n  - " = " invalid setting(s):" ++ ("\n" ++ "  - ") := by
    decide
  rw [hitems, unlines, String.intercalate_cons_of_ne_nil (by simpa using h), ← unlines,
    unlines_itemLines hmessages, message, countLine, hend]
  simp only [String.append_assoc]

lemma single_messageLines (e : CompileError) :
    ∀ l ∈ e.messageLines, l.toList ≠ [] ∧ '\n' ∉ l.toList ∧ '\r' ∉ l.toList := by
  have hmark : Shows "  - " := shows_of_all (by decide)
  have hcount : Shows e.countLine := by
    refine ((shows_of_all (by decide)).append fun c hc => ?_).append (shows_of_all (by decide))
    rw [Nat.toString_eq_repr, Nat.toList_repr] at hc
    have hdigits : ∀ d < 10, isHidden (Nat.digitChar d) = false := by decide
    obtain ⟨d, hd, rfl⟩ := Scalar.mem_toDigits (by decide) hc
    exact hdigits d hd
  intro l hl
  rcases List.mem_cons.1 hl with rfl | hl
  · exact ⟨by simp [countLine], hcount.isSingleLine.not_mem⟩
  · obtain ⟨fault, -, rfl⟩ := List.mem_map.1 hl
    exact ⟨by simp [itemLine], (hmark.append fault.shows_message).isSingleLine.not_mem⟩

lemma lines_message {e : CompileError} (h : e.faults ≠ []) :
    lines e.message.toList = e.messageLines.map String.toList := by
  have hsingle : ∀ l ∈ e.messageLines.map String.toList, l ≠ [] ∧ '\n' ∉ l ∧ '\r' ∉ l :=
    List.forall_mem_map.2 e.single_messageLines
  have hnewline : "\n".toList = ['\n'] := rfl
  rw [message_eq_unlines h, unlines, String.toList_intercalate, hnewline,
    lines_intercalate hsingle (by simp [messageLines])]

/-- The number of faults and the messages that the text of a refusal gives. -/
def read? (text : String) : Option (Nat × List String) :=
  match lines text.toList with
  | [] => none
  | first :: items => do
    let rest ← first.dropPrefix? "plan has ".toList
    let count ← Scalar.natural? 10 (rest.takeWhile Char.isDigit)
    let messages ← items.mapM (·.dropPrefix? "  - ".toList)
    return (count, messages.map String.ofList)

lemma read?_message {e : CompileError} (h : e.faults ≠ []) :
    read? e.message = some (e.faults.length, e.faults.map PlanFault.message) := by
  have hcount : e.countLine.toList = "plan has ".toList ++
      (Nat.toDigits 10 e.faults.length ++ " invalid setting(s):".toList) := by
    rw [countLine, String.toList_append, String.toList_append, Nat.toString_eq_repr,
      Nat.toList_repr, List.append_assoc]
  have hdigits : ∀ c ∈ Nat.toDigits 10 e.faults.length, c.isDigit = true :=
    fun c hc => Nat.isDigit_of_mem_toDigits (by decide) (by decide) hc
  have htake : (Nat.toDigits 10 e.faults.length ++ " invalid setting(s):".toList).takeWhile
      Char.isDigit = Nat.toDigits 10 e.faults.length := by
    rw [List.takeWhile_append_of_pos hdigits, String.toList_ofList,
      List.takeWhile_cons_of_neg (by decide), List.append_nil]
  have hnumber : Scalar.natural? 10 (Nat.toDigits 10 e.faults.length) = some e.faults.length :=
    Scalar.natural?_toDigits (by decide) (by decide) _
  have hitems : (e.faults.map fun fault => itemLine fault.message).map String.toList =
      (e.faults.map fun fault => fault.message.toList).map ("  - ".toList ++ ·) := by
    rw [List.map_map, List.map_map]
    exact List.map_congr_left fun fault _ => String.toList_append
  unfold read?
  rw [lines_message h, messageLines, List.map_cons, hitems]
  simp only [hcount, dropPrefix?_append, Option.bind_eq_bind, Option.bind_some, htake, hnumber,
    mapM_dropPrefix?, Option.pure_def]
  simp only [List.map_map, Function.comp_def, String.ofList_toList]

end CompileError

/-- The messages of every refused plan take a single line each. The text of the refusal is a line
with their number and a line for each of them, so both are read back from the text. For every
package list there is a message for each name that holds a space or a control character, in the
order of the list; the name is read back from its message, and different names have different
messages. -/
theorem compile_refusal :
    (∀ (p : Plan) (e : CompileError), compile p = .error e →
      (∀ fault ∈ e.faults, IsSingleLine fault.message) ∧
      lines e.message.toList =
        ("plan has " ++ toString e.faults.length ++ " invalid setting(s):").toList ::
          e.faults.map (fun fault => ("  - " ++ fault.message).toList) ∧
      (lines e.message.toList).length = 1 + e.faults.length ∧
      CompileError.read? e.message = some (e.faults.length, e.faults.map PlanFault.message)) ∧
    ∀ (label : String) (l : PackageList),
      l.faults.Sublist l.names ∧
      (∀ name, name ∈ l.faults ↔
        name ∈ l.names ∧ ∃ c ∈ name.toList, isSpace c = true ∨ isControl c = true) ∧
      (l.faults.map (packageMessage label)).map (packageName? label) = l.faults.map some ∧
      ∀ a b, packageMessage label a = packageMessage label b → a = b := by
  refine ⟨fun p e h => ?_,
    fun label l => ⟨List.filter_sublist, fun name => ?_, ?_, fun a b h => ?_⟩⟩
  · obtain ⟨hne, rfl⟩ := (compile_eq_error_iff p e).1 h
    have hlines := CompileError.lines_message (e := ⟨p.faults⟩) hne
    rw [CompileError.messageLines, List.map_cons, List.map_map] at hlines
    refine ⟨fun fault _ => fault.shows_message.isSingleLine, hlines, ?_,
      CompileError.read?_message hne⟩
    rw [hlines, List.length_cons, List.length_map, Nat.add_comm]
  · rw [PackageList.faults, List.mem_filter, isPackageFault_iff]
  · rw [List.map_map]
    exact List.map_congr_left fun name _ => packageName?_packageMessage label name
  · have hread := packageName?_packageMessage label a
    rw [h, packageName?_packageMessage] at hread
    exact (Option.some.inj hread).symm

/-- A plan with a package whose name looks like the end of a message and a message of its own. -/
def forgedPlan : Plan where
  source := { path := "tmp/a" }
  target := { path := "/tmp/b" }
  system := { pythonPackages := .ofList ["rich", "a\" must not\n  - Target: \u2028\\u\x7bb\x7d"] }

/-- The name stays inside its message, between quotes, and is read back from there. -/
theorem compile_refusal_forgedPlan :
    ∃ e, compile forgedPlan = .error e ∧
      e.faults = [.source .localPathRelative,
        .package "a\" must not\n  - Target: \u2028\\u\x7bb\x7d"] ∧
      (lines e.message.toList).length = 3 := by
  have hfaults : forgedPlan.faults = [.source .localPathRelative,
      .package "a\" must not\n  - Target: \u2028\\u\x7bb\x7d"] := by
    decide
  have hrefused : compile forgedPlan = .error ⟨forgedPlan.faults⟩ :=
    (compile_eq_error_iff _ _).2 ⟨by simp [hfaults], rfl⟩
  have hlength := (compile_refusal.1 _ _ hrefused).2.2.1
  rw [hfaults] at hrefused hlength
  exact ⟨_, hrefused, rfl, hlength⟩

end SyncScript
