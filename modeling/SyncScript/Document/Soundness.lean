import SyncScript.Document.Reading

/-!
# Sound documents

A document is sound when it has a meaning without a schema: no mapping has a key twice, scalars
are of the types that their tags say, integers fit into 64 bits, and no value holds itself.
-/

namespace SyncScript.Document

mutual

/-- Whether two documents are the same as keys. Fractions are compared by value. -/
def same : Document → Document → Bool
  | sequence items, sequence items' => sameItems items items'
  | mapping entries, mapping entries' => sameEntries entries entries'
  | tagged tag d, tagged tag' d' => tag == tag' && same d d'
  | sequence _, _ | mapping _, _ | tagged .., _ => false
  | _, sequence _ | _, mapping _ | _, tagged .. => false
  | d, d' => d.found.name "null" == d'.found.name "null"

def sameItems : List Document → List Document → Bool
  | [], [] => true
  | d :: items, d' :: items' => same d d' && sameItems items items'
  | _, _ => false

def sameEntries : List (Document × Document) → List (Document × Document) → Bool
  | [], [] => true
  | (k, d) :: entries, (k', d') :: entries' =>
    same k k' && same d d' && sameEntries entries entries'
  | _, _ => false

end

def isWide : Found → Bool
  | .integer n => ! fits 64 n
  | _ => false

def hasRepeated : List (Document × Document) → Bool
  | [] => false
  | (k, _) :: entries => entries.any (fun e => same k e.1) || hasRepeated entries

mutual

def isSound : Document → Bool
  | sequence items => areSound items
  | mapping entries => ! hasRepeated entries && entriesSound entries
  | tagged tag d => tag != "" && (tagged tag d).mistagged?.isNone && isSound d
  | d => ! isWide d.found

def areSound : List Document → Bool
  | [] => true
  | d :: items => isSound d && areSound items

def entriesSound : List (Document × Document) → Bool
  | [] => true
  | (k, d) :: entries => isSound k && isSound d && entriesSound entries

end

end SyncScript.Document
