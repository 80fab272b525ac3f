import CallGuard.Proofs.Log.Reading

/-!
# Values that JSON holds

A value of data is null, a truth value, a whole number, a text, or it is put together from such
values: a sequence of them, or a mapping from texts to them. It is written as a JSON text that says
the document of the value, unless a number in it is too long or it goes down too many levels.
-/

namespace CallGuard

open CallGuard.Log CallGuard.Number CallGuard.Text

namespace Value

/-- The document of a value that has no parts. -/
def plainDocument? : Value → Option Document
  | .null => some .null
  | .bool b => some (.bool b)
  | .int n => if n.natAbs < Nat.pow 10 digitLimit then some (.number (wholeNumeral n)) else none
  | .text s => some (.text (pointsOf s))
  | _ => none

/-- The name of a member, if it is a text. -/
def memberName? : Value → Option (List ℕ)
  | .text name => some (pointsOf name)
  | _ => none

/-- The document of a value of data for which a number of levels is left. -/
def documentIn : ℕ → Value → Option Document
  | 0, v => v.plainDocument?
  | levels + 1, v =>
    match v with
    | .list items => (items.mapM (documentIn levels)).map .array
    | .tuple items => (items.mapM (documentIn levels)).map .array
    | .record _ fields => ((fields.map (·.2)).mapM (documentIn levels)).map .array
    | .mapping entries =>
      (entries.mapM fun (entry : Value × Value) => do
        let name ← memberName? entry.1
        let document ← documentIn levels entry.2
        some (name, document)).map .object
    | v => v.plainDocument?

/-- The document of a value of data. -/
def document? [Platform] (v : Value) : Option Document := v.documentIn Platform.jsonLevels

/-- A value without parts has the same document however many levels are left. -/
theorem documentIn_of_plain {v : Value} {document : Document} (h : v.plainDocument? = some document)
    (levels : ℕ) : v.documentIn levels = some document := by
  cases levels with
  | zero => exact h
  | succ levels =>
      cases v with
      | list _ | tuple _ | record _ _ | mapping _ => cases h
      | _ => exact h

theorem isSome_document? [Platform] {v : Value} (h : v.plainDocument?.isSome = true) :
    (v.document?).isSome = true := by
  obtain ⟨document, hdocument⟩ := Option.isSome_iff_exists.mp h
  rw [document?, documentIn_of_plain hdocument]
  rfl

/-- Truth values, texts, lists of texts and null, which extra fields mostly hold. -/
inductive LogsAs : Value → Document → Prop
  | null : LogsAs .null .null
  | bool (b : Bool) : LogsAs (.bool b) (.bool b)
  | text (s : String) : LogsAs (.text s) (.text (pointsOf s))
  | texts (all : List String) :
      LogsAs (.list (all.map .text)) (.array (all.map fun s => .text (pointsOf s)))

theorem mapM_documentIn_texts (levels : ℕ) (all : List String) :
    (all.map text).mapM (documentIn levels) = some (all.map fun s => .text (pointsOf s)) := by
  induction all with
  | nil => rfl
  | cons s all ih =>
      have hfirst : documentIn levels (text s) = some (.text (pointsOf s)) :=
        documentIn_of_plain rfl levels
      rw [List.map_cons, List.mapM_cons, ih, hfirst]
      rfl

theorem LogsAs.document?_eq [Platform] {v : Value} {document : Document} (h : v.LogsAs document) :
    v.document? = some document := by
  cases h with
  | texts all =>
      obtain ⟨levels, hlevels⟩ := Nat.exists_eq_succ_of_ne_zero Platform.jsonLevels_pos.ne'
      rw [document?, hlevels]
      exact congrArg (Option.map Document.array) (mapM_documentIn_texts levels all)
  | _ => exact documentIn_of_plain rfl _

end Value

namespace Log

open List (Forall₂)

theorem levelsInside_succ (activity : String) (levels : ℕ) :
    Value.levelsInside activity (levels + 1) 1 = .ok levels := by
  rw [Value.levelsInside, if_neg (by omega), Nat.add_sub_cancel]

variable [Platform] {levels : ℕ} {v : Value} {document : Document}

/-- A value is written as a text that says a document. -/
def WrittenAs (levels : ℕ) (v : Value) (document : Document) : Prop :=
  ∃ text, jsonForm levels v = .ok text ∧ Says text.toList document

theorem writtenAs_of_plain (h : v.plainDocument? = some document) :
    WrittenAs levels v document := by
  cases v with
  | null =>
      cases h
      exact ⟨_, by rw [jsonForm], says_null⟩
  | bool b =>
      cases h
      exact ⟨_, by rw [jsonForm], says_bool b⟩
  | int n =>
      rw [Value.plainDocument?] at h
      split at h
      · rename_i hn
        cases h
        have hshort : ¬n.natAbs ≥ Nat.pow 10 digitLimit := Nat.not_le_of_lt hn
        exact ⟨_, by rw [jsonForm, Value.intText, if_neg hshort], says_toString hn⟩
      · cases h
  | text s =>
      cases h
      exact ⟨_, by rw [jsonForm], says_jsonString s⟩
  | _ => cases h

theorem exists_jsonItems
    (hwritten : ∀ v document, v.documentIn levels = some document → WrittenAs levels v document)
    {items : List Value} {documents : List Document}
    (h : items.mapM (Value.documentIn levels) = some documents) :
    ∃ texts, jsonItems levels items = .ok texts ∧
      Forall₂ (fun text document => Says text.toList document) texts documents := by
  induction items generalizing documents with
  | nil =>
      cases h
      exact ⟨[], by rw [jsonItems], .nil⟩
  | cons item items ih =>
      simp only [List.mapM_cons, Option.bind_eq_bind, Option.bind_eq_some_iff] at h
      obtain ⟨first, hfirst, rest, hrest, hcons⟩ := h
      cases hcons
      obtain ⟨text, htext, hsaid⟩ := hwritten item first hfirst
      obtain ⟨texts, htexts, hall⟩ := ih hrest
      refine ⟨text :: texts, ?_, .cons hsaid hall⟩
      rw [jsonItems, htext, htexts]
      rfl

theorem jsonFields_eq (levels : ℕ) (fields : List (String × Value)) :
    jsonFields levels fields = jsonItems levels (fields.map (·.2)) := by
  induction fields with
  | nil => rw [jsonFields, List.map_nil, jsonItems]
  | cons field fields ih => rw [jsonFields, List.map_cons, jsonItems, ih]

theorem exists_jsonEntries
    (hwritten : ∀ v document, v.documentIn levels = some document → WrittenAs levels v document)
    {entries : List (Value × Value)} {members : List (List ℕ × Document)}
    (h : (entries.mapM fun entry => do
      let name ← Value.memberName? entry.1
      let document ← Value.documentIn levels entry.2
      some (name, document)) = some members) :
    ∃ texts, jsonEntries levels entries = .ok texts ∧
      Forall₂ (fun text member => Reads readMemberIn text.toList member) texts members := by
  induction entries generalizing members with
  | nil =>
      cases h
      exact ⟨[], by rw [jsonEntries], .nil⟩
  | cons entry entries ih =>
      obtain ⟨key, value⟩ := entry
      simp only [List.mapM_cons, Option.bind_eq_bind, Option.bind_eq_some_iff] at h
      obtain ⟨member, ⟨name, hname, document, hdocument, hmember⟩, rest, hrest, hcons⟩ := h
      cases hmember
      cases hcons
      obtain ⟨text, htext, hsaid⟩ := hwritten value document hdocument
      obtain ⟨texts, htexts, hall⟩ := ih hrest
      cases key with
      | text s =>
          cases hname
          refine ⟨jsonMember s text :: texts, ?_, .cons (reads_jsonMember s hsaid) hall⟩
          rw [jsonEntries, jsonKey, htext, htexts]
          rfl
      | _ => cases hname

/-- A value of data is written as a text that says its document. -/
theorem writtenAs_of_documentIn (h : v.documentIn levels = some document) :
    WrittenAs levels v document := by
  induction levels generalizing v document with
  | zero => exact writtenAs_of_plain h
  | succ levels ih =>
      have hwritten (v : Value) (document : Document) (h : v.documentIn levels = some document) :
          WrittenAs levels v document := ih h
      have harray {items : List Value} {form : Except Raised String}
          (hitems : (items.mapM (Value.documentIn levels)).map .array = some document)
          (hform : form = (jsonItems levels items).bind fun parts =>
            .ok ("[" ++ Value.commaList parts ++ "]")) :
          ∃ text, form = .ok text ∧ Says text.toList document := by
        obtain ⟨documents, hdocuments, rfl⟩ := Option.map_eq_some_iff.mp hitems
        obtain ⟨texts, htexts, hall⟩ := exists_jsonItems hwritten hdocuments
        exact ⟨_, by rw [hform, htexts]; rfl, says_array hall⟩
      cases v with
      | list items => exact harray h (by rw [jsonForm, levelsInside_succ]; rfl)
      | tuple items => exact harray h (by rw [jsonForm, levelsInside_succ]; rfl)
      | record type fields =>
          exact harray h (by rw [jsonForm, levelsInside_succ, ← jsonFields_eq]; rfl)
      | mapping entries =>
          obtain ⟨members, hmembers, rfl⟩ := Option.map_eq_some_iff.mp h
          obtain ⟨texts, htexts, hall⟩ := exists_jsonEntries hwritten hmembers
          refine ⟨_, ?_, says_jsonObject hall⟩
          rw [jsonForm, levelsInside_succ]
          show (jsonEntries levels entries).bind _ = _
          rw [htexts]
          rfl
      | _ => exact writtenAs_of_plain h

theorem exists_json (h : v.document? = some document) :
    ∃ text, json v = .ok text ∧ Says text.toList document :=
  writtenAs_of_documentIn h

end Log

end CallGuard
