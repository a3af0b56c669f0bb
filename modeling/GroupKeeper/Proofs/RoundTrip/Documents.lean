import GroupKeeper.Yaml.Document.Grammar
import GroupKeeper.Yaml.Print
import GroupKeeper.Proofs.Data.Reader

/-! Documents that hold data. What the data holds is what the reader of the document is told, so
that a decoder makes of the document what it makes of the data. -/

namespace GroupKeeper.Yaml

namespace Node

mutual

/-- The data of a node without references, its scalars taken for texts. -/
def data? : Node → Option Data
  | .scalar _ _ s => some (.text s)
  | .list xs => (dataList? xs).map .list
  | .table es => (dataEntries? es).map .record
  | .reference _ => none

/-- The data of each node of a list. -/
def dataList? : List Node → Option (List Data)
  | [] => some []
  | x :: xs => do
    let d ← data? x
    let ds ← dataList? xs
    return d :: ds

/-- The data under each key. The keys have to be scalars. -/
def dataEntries? : List (Node × Node) → Option (List (String × Data))
  | [] => some []
  | (.scalar _ _ k, x) :: es => do
    let d ← data? x
    let ds ← dataEntries? es
    return (k, d) :: ds
  | _ :: _ => none

end

end Node

namespace Document

variable (d : Document)

/-- Entries with scalars as keys, each given the text of its key. -/
def keyed (es : List (Node × Node)) : Reading (List (String × Node)) :=
  es.mapM fun (k, x) => do return (← d.text k, x)

theorem keyed_cons {tag : Option String} {form : ScalarForm} {key : String} {x : Node}
    {es : List (Node × Node)} {entries : List (String × Node)} (h : d.keyed es = pure entries) :
    d.keyed ((.scalar tag form key, x) :: es) = pure ((key, x) :: entries) := by
  have hkey : d.text (.scalar tag form key) = pure key := rfl
  rw [keyed] at h ⊢
  simp only [List.mapM_cons, hkey, h, pure_bind]

theorem fields_reader {es : List (Node × Node)} {entries : List (String × Node)}
    (h : d.keyed es = pure entries) (names : List String) {field : Fields Node}
    (hfield : collectFields names entries = some field) :
    d.reader.fields names (.table es) = pure field := by
  have hentries : d.entries (.table es) = pure entries := h
  simp only [reader, hentries, pure_bind, hfield]
  rfl

mutual

/-- The reader of a document is told what the data of a node holds. -/
theorem shows_of_data? : (n : Node) → {x : Data} → n.data? = some x → d.reader.Shows n x
  | .scalar _ _ s, _, h => by
      obtain rfl := Option.some.inj h
      exact .text rfl
  | .list ns, _, h => by
      obtain ⟨xs, hxs, rfl⟩ := Option.map_eq_some_iff.mp h
      exact .list rfl (shows_of_dataList? ns hxs)
  | .table es, _, h => by
      obtain ⟨fs, hfs, rfl⟩ := Option.map_eq_some_iff.mp h
      obtain ⟨entries, hkeyed, hnames, hinner⟩ := shows_of_dataEntries? es hfs
      exact .record hkeyed (fun names _ => fields_reader d hkeyed names) hnames hinner

theorem shows_of_dataList? : (ns : List Node) → {xs : List Data} → Node.dataList? ns = some xs →
    List.Forall₂ d.reader.Shows ns xs
  | [], _, h => by
      obtain rfl := Option.some.inj h
      exact .nil
  | n :: ns, _, h => by
      simp only [Node.dataList?, Option.bind_eq_bind, Option.bind_eq_some_iff, Option.pure_def,
        Option.some.injEq] at h
      obtain ⟨x, hx, xs, hxs, rfl⟩ := h
      exact .cons (shows_of_data? n hx) (shows_of_dataList? ns hxs)

theorem shows_of_dataEntries? : (es : List (Node × Node)) → {fs : List (String × Data)} →
    Node.dataEntries? es = some fs → ∃ entries, d.keyed es = pure entries ∧
      entries.map (·.1) = fs.map (·.1) ∧
      List.Forall₂ d.reader.Shows (entries.map (·.2)) (fs.map (·.2))
  | [], _, h => by
      obtain rfl := Option.some.inj h
      exact ⟨[], rfl, rfl, .nil⟩
  | (.scalar _ _ key, n) :: es, _, h => by
      simp only [Node.dataEntries?, Option.bind_eq_bind, Option.bind_eq_some_iff, Option.pure_def,
        Option.some.injEq] at h
      obtain ⟨x, hx, fs, hfs, rfl⟩ := h
      obtain ⟨entries, hkeyed, hnames, hinner⟩ := shows_of_dataEntries? es hfs
      exact ⟨(key, n) :: entries, d.keyed_cons hkeyed, congrArg (key :: ·) hnames,
        .cons (shows_of_data? n hx) hinner⟩
  -- Nothing but a scalar is a key.
  | (.list _, _) :: _, _, h => by simp [Node.dataEntries?] at h
  | (.table _, _) :: _, _, h => by simp [Node.dataEntries?] at h
  | (.reference _, _) :: _, _, h => by simp [Node.dataEntries?] at h

end

end Document

/-- The text that data is written as is read as a document with the same data. -/
def ReadsBack (x : Data) : Prop :=
  (Document.ofText? (print x)).bind (·.root.data?) = some x

instance (x : Data) : Decidable (ReadsBack x) :=
  inferInstanceAs (Decidable (_ = _))

end GroupKeeper.Yaml
