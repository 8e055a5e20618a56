/-!
Letter case as a map from characters to texts. A map is given by runs of characters that move by one
distance each and by the few characters that become several; every other character stays itself.
-/

namespace CredentialBroker.Text

/-- Every `stride`-th code point from `first` to `last` moves by `shift`. -/
structure CaseRun where
  first : Nat
  last : Nat
  stride : Nat
  shift : Int

def CaseRun.covers (run : CaseRun) (code : Nat) : Bool :=
  run.first ≤ code && code ≤ run.last && (code - run.first) % run.stride == 0

def CaseRun.image (run : CaseRun) (code : Nat) : Nat :=
  (code + run.shift).toNat

structure CaseMap where
  runs : List CaseRun
  expansions : List (Nat × List Nat)

def CaseMap.mapChar (caseMap : CaseMap) (char : Char) : List Char :=
  match caseMap.expansions.lookup char.toNat with
  | some codes => codes.map Char.ofNat
  | none =>
    match caseMap.runs.find? fun run => run.covers char.toNat with
    | some run => [Char.ofNat (run.image char.toNat)]
    | none => [char]

def CaseMap.mapText (caseMap : CaseMap) (text : List Char) : List Char :=
  text.flatMap caseMap.mapChar

@[simp]
theorem CaseMap.mapText_nil (caseMap : CaseMap) : caseMap.mapText [] = [] := rfl

@[simp]
theorem CaseMap.mapText_cons (caseMap : CaseMap) (char : Char) (text : List Char) :
    caseMap.mapText (char :: text) = caseMap.mapChar char ++ caseMap.mapText text := rfl

@[simp]
theorem CaseMap.mapText_append (caseMap : CaseMap) (left right : List Char) :
    caseMap.mapText (left ++ right) = caseMap.mapText left ++ caseMap.mapText right :=
  List.flatMap_append

end CredentialBroker.Text
