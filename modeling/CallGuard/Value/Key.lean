import CallGuard.Number.Exact
import CallGuard.Value.Basic

/-!
Equality of the keys of a mapping. Numbers of all types are equal when their exact values are, and
so are tuples whose items are equal one by one; an undefined number equals nothing.
-/

namespace CallGuard.Value

open CallGuard.Number

/-- The exact real and imaginary parts of a number; an undefined part has no value. -/
def exactParts? : Value → Option (Option Exact × Option Exact)
  | .bool b => some (some (.ofRatio (if b then 1 else 0) 1), some .zero)
  | .int n => some (some (.ofRatio n 1), some .zero)
  | .float x => some (Exact.ofBinary64? x, some .zero)
  | .decimal d => some (Exact.ofDecimal? d, some .zero)
  | .fraction num den => some (some (.ofRatio num den), some .zero)
  | .complex re im => some (Exact.ofBinary64? re, Exact.ofBinary64? im)
  | _ => none

def samePart : Option Exact → Option Exact → Bool
  | some a, some b => a.same b
  | _, _ => false

def sameNumber (a b : Value) : Bool :=
  match a.exactParts?, b.exactParts? with
  | some (re, im), some (re', im') => samePart re re' && samePart im im'
  | _, _ => false

/-- Equality of callables: a built-in function is known by its name. -/
def sameCallable (c d : Callable) : Bool :=
  if c.kind = .builtin && d.kind = .builtin then c.name == d.name else c.id == d.id

def tupleItems? : Value → Option (List Value)
  | .tuple items => some items
  | .record _ fields => some (fields.map (·.2))
  | _ => none

mutual

def sameKey : Value → Value → Bool
  | .null, .null => true
  | .int m, .int n => m == n
  | .text s, .text t => s == t
  | .bytes bs, .bytes cs => bs == cs
  | .range a b c, .range x y z =>
    let count := rangeCount a b c
    count == rangeCount x y z && (count == 0 || (a == x && (count == 1 || c == z)))
  | .callable c, .callable d => sameCallable c d
  | .tuple items, other =>
    match other.tupleItems? with
    | some others => sameItems items others
    | none => false
  | .record _ fields, other =>
    match other.tupleItems? with
    | some others => sameFields fields others
    | none => false
  | a, b => sameNumber a b

def sameItems : List Value → List Value → Bool
  | [], [] => true
  | a :: as, b :: bs => sameKey a b && sameItems as bs
  | _, _ => false

/-- Whether the fields of a record hold the given keys, item by item. -/
def sameFields : List (String × Value) → List Value → Bool
  | [], [] => true
  | (_, a) :: as, b :: bs => sameKey a b && sameFields as bs
  | _, _ => false

end

section Entries

variable {α : Type}

/-- Sets what stands at a key: an equal key keeps its place and its form. -/
def setEntry (entries : List (Value × α)) (key : Value) (a : α) : List (Value × α) :=
  if entries.any fun entry => entry.1.sameKey key then
    entries.map fun entry => if entry.1.sameKey key then (entry.1, a) else entry
  else entries ++ [(key, a)]

def entryAt? (entries : List (Value × α)) (key : String) : Option α :=
  match entries with
  | [] => none
  | (.text s, a) :: rest => if s = key then some a else entryAt? rest key
  | _ :: rest => entryAt? rest key

def entryFor? (entries : List (Value × α)) (key : Value) : Option α :=
  (entries.find? fun entry => entry.1.sameKey key).map (·.2)

end Entries

/-- The entries of a mapping made from pairs in order. -/
def entriesOf (pairs : List (Value × Value)) : List (Value × Value) :=
  pairs.foldl (fun entries pair => setEntry entries pair.1 pair.2) []

/-- The only key that equals a text is that text. -/
theorem sameKey_text {v : Value} {s : String} : v.sameKey (.text s) = true ↔ v = .text s := by
  cases v <;> simp [sameKey, tupleItems?, sameNumber, exactParts?]

/-- Looking a text up finds what stands at the first key that equals it. -/
theorem entryAt?_eq_entryFor? {α : Type} (entries : List (Value × α)) (key : String) :
    entryAt? entries key = entryFor? entries (.text key) := by
  induction entries with
  | nil => rfl
  | cons entry rest ih =>
    obtain ⟨k, a⟩ := entry
    by_cases h : k.sameKey (.text key) = true
    · rw [sameKey_text] at h
      subst h
      simp [entryAt?, entryFor?, sameKey]
    · have hr : entryFor? ((k, a) :: rest) (.text key) = entryFor? rest (.text key) := by
        simp [entryFor?, h]
      rw [hr, ← ih]
      cases k with
      | text s =>
        have hs : s ≠ key := fun e => h (sameKey_text.2 (congrArg text e))
        simp [entryAt?, hs]
      | _ => rfl

def changeable (v : Value) : Raised :=
  ⟨"TypeError", "unhashable type: '" ++ v.fullTypeName ++ "'"⟩

/-- Why a value cannot be a key: the first part of it that can change or signals. -/
def keyFault? : Value → Option Raised
  | .tuple items => faultOfItems? items
  | .record _ fields => faultOfFields? fields
  | .decimal (.nan _ true _) => some ⟨"TypeError", "Cannot hash a signaling NaN value"⟩
  | v =>
    match v with
    | .list _ | .set _ | .mapping _ | .view _ | .byteArray _ | .deque _ => some v.changeable
    | _ => none
where
  /-- The first such fault among items. -/
  faultOfItems? : List Value → Option Raised
    | [] => none
    | item :: rest => (keyFault? item).or (faultOfItems? rest)
  /-- The first such fault among fields. -/
  faultOfFields? : List (String × Value) → Option Raised
    | [] => none
    | (_, item) :: rest => (keyFault? item).or (faultOfFields? rest)

end CallGuard.Value
