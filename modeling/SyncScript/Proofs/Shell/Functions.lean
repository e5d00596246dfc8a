import Mathlib.Algebra.Group.Nat.Defs
import Mathlib.Data.List.GetD
import Mathlib.Logic.Function.Basic
import SyncScript.Document.Scalar
import SyncScript.Proofs.Shell.Words
import SyncScript.Proofs.Text.Quoted
import SyncScript.Text.Basic

/-!
# Functions of the shell

The statements of a shell function that goes through arrays: how they are written, and what they do.
A text is split into the elements of an array, a loop takes the indices of an array one by one,
elements are compared as numbers, and the function is left with a status. Where the shell would do
anything else, such as look for files that match a word, a run has no result.
-/

namespace SyncScript.Shell

/-! ### How statements are written -/

/-- The element of an array at the index in a variable. It counts as zero where it is unset or
empty, and it is decimal also when it begins with a zero. -/
structure Element where
  array : String
  index : String

def Element.written (e : Element) : String :=
  "10#$\x7b" ++ e.array ++ "[" ++ e.index ++ "]:-0\x7d"

inductive Comparison where
  | less
  | greater

def Comparison.written : Comparison → String
  | .less => "<"
  | .greater => ">"

inductive Statement where
  /-- A variable of the function with a text. -/
  | assign (name text : String)
  /-- An array of the function, made of the words of an argument. -/
  | split (array : String) (argument : Fin 9)
  /-- A variable of the function without a text. -/
  | declare (name : String)
  /-- A loop over the indices of an array. -/
  | forIndices (index array : String) (body : List Statement)
  | ifCompares (left : Element) (comparison : Comparison) (right : Element) (body : List Statement)
  | leave (status : Nat)

def indent (lines : List String) : List String :=
  lines.map ("    " ++ ·)

mutual

def Statement.lines : Statement → List String
  | .assign name text => ["local " ++ name ++ "=" ++ text]
  | .split array argument => ["local -a " ++ array ++ "=($" ++ toString (argument.val + 1) ++ ")"]
  | .declare name => ["local " ++ name]
  | .forIndices index array body =>
    ["for " ++ index ++ " in \"$\x7b!" ++ array ++ "[@]\x7d\"; do"] ++ indent (block body) ++
      ["done"]
  | .ifCompares left comparison right body =>
    ["if (( " ++ left.written ++ " " ++ comparison.written ++ " " ++ right.written ++
      " )); then"] ++ indent (block body) ++ ["fi"]
  | .leave status => ["return " ++ toString status]

def block : List Statement → List String
  | [] => []
  | statement :: rest => statement.lines ++ block rest

end

/-! ### What statements do -/

/-- What a function sees: its arguments, and the variables that are set, also by its callers. A name
is that of a text or of an array, not of both. -/
structure Scope where
  arguments : List String
  texts : String → String
  arrays : String → List String

namespace Scope

def setText (scope : Scope) (name text : String) : Scope :=
  { scope with texts := Function.update scope.texts name text }

def setArray (scope : Scope) (name : String) (elements : List String) : Scope :=
  { scope with arrays := Function.update scope.arrays name elements }

section

variable (scope : Scope) (name : String)

@[simp] lemma arguments_setText (text : String) :
    (scope.setText name text).arguments = scope.arguments :=
  rfl

@[simp] lemma arrays_setText (text : String) : (scope.setText name text).arrays = scope.arrays :=
  rfl

@[simp] lemma texts_setText_self (text : String) : (scope.setText name text).texts name = text := by
  simp [setText]

@[simp] lemma arguments_setArray (elements : List String) :
    (scope.setArray name elements).arguments = scope.arguments :=
  rfl

@[simp] lemma texts_setArray (elements : List String) :
    (scope.setArray name elements).texts = scope.texts :=
  rfl

@[simp] lemma arrays_setArray_self (elements : List String) :
    (scope.setArray name elements).arrays name = elements := by
  simp [setArray]

lemma arrays_setArray_of_ne {other : String} (h : other ≠ name) (elements : List String) :
    (scope.setArray name elements).arrays other = scope.arrays other := by
  simp [setArray, h]

end

end Scope

/-- After a statement the function goes on, or it is left. -/
inductive Flow where
  | next (scope : Scope)
  | left (status : Nat)

/-- The words between separators. Each word but the last ends with a separator, so a separator in
last place is followed by no further word. -/
def wordsBetween (separator : Char) (cs : List Char) : List (List Char) :=
  let pieces := Text.splitAtEach separator cs
  if pieces.getLast? = some [] then pieces.dropLast else pieces

/-- Defaults at the end of a list can as well be missing. -/
lemma getD_append_replicate {α : Type} (l : List α) (a : α) (n i : Nat) :
    (l ++ List.replicate n a).getD i a = l.getD i a := by
  rcases Nat.lt_or_ge i l.length with hlt | hge
  · exact List.getD_append _ _ _ _ hlt
  · rw [List.getD_append_right _ _ _ _ hge, List.getD_eq_getElem?_getD,
      List.getElem?_getD_replicate_default_eq, List.getD_eq_default _ _ hge]

lemma getD_wordsBetween (separator : Char) (cs : List Char) (i : Nat) :
    (wordsBetween separator cs).getD i [] = (Text.splitAtEach separator cs).getD i [] := by
  rw [wordsBetween]
  split
  · rename_i hlast
    have hpieces := List.dropLast_append_getLast? [] hlast
    have hempty := getD_append_replicate (Text.splitAtEach separator cs).dropLast [] 1 i
    rw [← hempty, List.replicate_one, hpieces]
  · rfl

/-- The words of a text without quotes where one character that is no space separates words. A text
with a character that may belong to a pattern for files is not covered. -/
def splitWords? (separator text : String) : Option (List String) :=
  match separator.toList with
  | [c] =>
    if Text.isSpace c || ! text.toList.all (fun d => d.isAlphanum || d == c) then none
    else some ((wordsBetween c text.toList).map String.ofList)
  | _ => none

lemma splitWords?_eq {separator text : String} {c : Char} (hseparator : separator.toList = [c])
    (hspace : Text.isSpace c = false) (htext : ∀ d ∈ text.toList, d.isAlphanum = true ∨ d = c) :
    splitWords? separator text = some ((wordsBetween c text.toList).map String.ofList) := by
  have hall : text.toList.all (fun d => d.isAlphanum || d == c) = true := by
    simpa using htext
  rw [splitWords?, hseparator]
  dsimp only
  rw [hspace, hall]
  rfl

/-- An index that is written as the shell writes it. -/
def index? (text : String) : Option Nat :=
  (Scalar.natural? 10 text.toList).filter fun n => toString n == text

/-- A decimal number, in the signed integers of 64 bits that the shell computes with. -/
def decimal? (text : String) : Option Int :=
  (Scalar.natural? 10 text.toList).map fun n : Nat => Int.bmod n (2 ^ 64)

lemma index?_toString (n : Nat) : index? (toString n) = some n := by
  rw [index?, Nat.toString_eq_repr, Nat.toList_repr,
    Scalar.natural?_toDigits (by decide) (by decide)]
  simp

def Scope.element? (scope : Scope) (e : Element) : Option Int := do
  let index ← index? (scope.texts e.index)
  let text := (scope.arrays e.array).getD index ""
  decimal? (if text = "" then "0" else text)

lemma decimal?_eq {text : String} {n : Nat} (h : Scalar.natural? 10 text.toList = some n)
    (hn : n < 2 ^ 63) : decimal? text = some (n : Int) := by
  have hbmod : Int.bmod n (2 ^ 64) = n := by
    apply Int.bmod_eq_of_le_mul_two
    · omega
    · omega
  rw [decimal?, h, Option.map_some, hbmod]

lemma Scope.element?_eq {scope : Scope} {e : Element} {i : Nat}
    (hindex : scope.texts e.index = toString i) :
    scope.element? e =
      decimal? (if (scope.arrays e.array).getD i "" = "" then "0"
        else (scope.arrays e.array).getD i "") := by
  rw [Scope.element?, hindex, index?_toString]
  rfl

def Comparison.holds : Comparison → Int → Int → Bool
  | .less, a, b => a < b
  | .greater, a, b => b < a

/-- The runs of the body of a loop, one for each of the indices. -/
def loop (body : Scope → Option Flow) (name : String) : List Nat → Scope → Option Flow
  | [], scope => some (.next scope)
  | index :: rest, scope => do
    match ← body (scope.setText name (toString index)) with
    | .next after => loop body name rest after
    | .left status => some (.left status)

lemma loop_of_next {body : Scope → Option Flow} {name : String} {index : Nat} {scope after : Scope}
    (h : body (scope.setText name (toString index)) = some (.next after)) (rest : List Nat) :
    loop body name (index :: rest) scope = loop body name rest after := by
  rw [loop, h]
  rfl

lemma loop_of_left {body : Scope → Option Flow} {name : String} {index status : Nat} {scope : Scope}
    (h : body (scope.setText name (toString index)) = some (.left status)) (rest : List Nat) :
    loop body name (index :: rest) scope = some (.left status) := by
  rw [loop, h]
  rfl

mutual

def Statement.run : Statement → Scope → Option Flow
  | .assign name text, scope =>
    if text.toList.all isLiteral then some (.next (scope.setText name text)) else none
  | .split array argument, scope => do
    let words ← splitWords? (scope.texts "IFS") (scope.arguments.getD argument.val "")
    some (.next (scope.setArray array words))
  | .declare name, scope => some (.next (scope.setText name ""))
  | .forIndices index array body, scope =>
    loop (runAll body) index (List.range (scope.arrays array).length) scope
  | .ifCompares left comparison right body, scope => do
    if comparison.holds (← scope.element? left) (← scope.element? right) then runAll body scope
    else some (.next scope)
  | .leave status, _ => some (.left status)

/-- Statements one after the other, until the function is left. -/
def runAll : List Statement → Scope → Option Flow
  | [], scope => some (.next scope)
  | statement :: rest, scope => do
    match ← statement.run scope with
    | .next after => runAll rest after
    | .left status => some (.left status)

end

lemma runAll_of_next {statement : Statement} {scope after : Scope}
    (h : statement.run scope = some (.next after)) (rest : List Statement) :
    runAll (statement :: rest) scope = runAll rest after := by
  rw [runAll, h]
  rfl

lemma runAll_of_left {statement : Statement} {scope : Scope} {status : Nat}
    (h : statement.run scope = some (.left status)) (rest : List Statement) :
    runAll (statement :: rest) scope = some (.left status) := by
  rw [runAll, h]
  rfl

lemma run_assign {text : String} (h : text.toList.all isLiteral = true) (name : String)
    (scope : Scope) :
    (Statement.assign name text).run scope = some (.next (scope.setText name text)) := by
  rw [Statement.run, if_pos h]

lemma run_split {scope : Scope} {argument : Fin 9} {words : List String}
    (h : splitWords? (scope.texts "IFS") (scope.arguments.getD argument.val "") = some words)
    (array : String) :
    (Statement.split array argument).run scope = some (.next (scope.setArray array words)) := by
  rw [Statement.run, h]
  rfl

lemma run_ifCompares {scope : Scope} {left right : Element} {a b : Int}
    (hleft : scope.element? left = some a) (hright : scope.element? right = some b)
    (comparison : Comparison) (body : List Statement) :
    (Statement.ifCompares left comparison right body).run scope =
      if comparison.holds a b then runAll body scope else some (.next scope) := by
  rw [Statement.run, hleft, hright]
  rfl

/-- The status of a function that is called from a scope with arguments. -/
def call (body : List Statement) (outer : Scope) (arguments : List String) : Option Nat :=
  match runAll body { outer with arguments := arguments } with
  | some (.left status) => some status
  | _ => none

end SyncScript.Shell
