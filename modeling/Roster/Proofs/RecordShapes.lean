import Mathlib.Data.List.Nodup
import Roster.Proofs.InstantTexts
import Roster.Proofs.JsonTexts
import Roster.Records

/-!
# Shapes that read what is written

A shape reads a value as some data. For texts, words, lists and tables this is seen at once. A
record is put together from its fields: if each of them finds its value among the members of an
object, and no name occurs twice, the record is read from the object.
-/

namespace Roster

/-! ## Rows in their order -/

namespace Table

variable {kind : Entity} {ρ : Type}

/-- A row whose key comes after all others is put at the end. -/
theorem placeRow_of_forall_lt {key : Ident kind} {rows : List (Ident kind × ρ)}
    (h : ∀ entry ∈ rows, entry.1 < key) (row : ρ) :
    placeRow key row rows = rows ++ [(key, row)] := by
  induction rows with
  | nil => rfl
  | cons first rest ih =>
    have hfirst := h first List.mem_cons_self
    have hnot : ¬ key < first.1 := fun hlt => Ident.lt_irrefl _ (Ident.lt_trans hlt hfirst)
    rw [placeRow, if_neg hnot, if_pos hfirst,
      ih fun entry hentry => h entry (List.mem_cons_of_mem _ hentry), List.cons_append]

/-- Filing rows in the order of their keys lists them in that order. -/
theorem rows_foldl_insert (entries : List (Ident kind × ρ)) (table : Table kind ρ)
    (hsorted : (table.rows ++ entries).Pairwise fun a b => a.1 < b.1) :
    (entries.foldl (fun table entry => table.insert entry.1 entry.2) table).rows =
      table.rows ++ entries := by
  induction entries generalizing table with
  | nil => exact (List.append_nil _).symm
  | cons first rest ih =>
    have hlast : (table.insert first.1 first.2).rows = table.rows ++ [first] :=
      placeRow_of_forall_lt (fun entry hentry =>
        (List.pairwise_append.1 hsorted).2.2 entry hentry first List.mem_cons_self) first.2
    have happend : table.rows ++ first :: rest = table.rows ++ [first] ++ rest := by simp
    rw [List.foldl_cons, ih, hlast, happend]
    rwa [hlast, ← happend]

/-- A table is made of its rows. -/
theorem ofList_rows (table : Table kind ρ) : ofList table.rows = table := by
  have hrows := rows_foldl_insert table.rows empty table.sorted
  exact ext_get? fun key =>
    congrArg (fun rows => (rows.find? fun entry => entry.1 = key).map (·.2)) hrows

end Table

namespace Json

variable {α β : Type}

/-- A complete value without numbers is read as some data. -/
structure Shape.Reads (shape : Shape α) (value : Json) (a : α) : Prop where
  plain : value.IsPlain
  reads : shape value = .ok a

/-! ## Records -/

namespace Record

/-- A record finds the values of its fields, and makes some data of them. -/
structure Finds (record : Record α) (found : String → Option Json) (a : α) : Prop where
  make : record.make found = .ok a
  check : ∀ field ∈ record.fields, ∀ value, found field.name = some value →
    field.check value = .ok () ∧ value.IsPlain

namespace Finds

variable {found : String → Option Json} {name : String} {shape : Shape α} {value : Json} {a : α}

/-- A field that must be there has its value. -/
theorem required (h : found name = some value) (hreads : shape.Reads value a) :
    (Record.required name shape).Finds found a where
  make := by simp only [Record.required, h, hreads.reads]
  check := by
    intro field hfield other hother
    obtain rfl := List.mem_singleton.1 hfield
    obtain rfl := Option.some.inj (h.symm.trans hother)
    exact ⟨by simp only [hreads.reads]; rfl, hreads.plain⟩

/-- A field that may be left out has its value. -/
theorem defaulted (h : found name = some value) (hreads : shape.Reads value a) (default : α) :
    (Record.defaulted name shape default).Finds found a where
  make := by simp only [Record.defaulted, h, hreads.reads]
  check := by
    intro field hfield other hother
    obtain rfl := List.mem_singleton.1 hfield
    obtain rfl := Option.some.inj (h.symm.trans hother)
    exact ⟨by simp only [hreads.reads]; rfl, hreads.plain⟩

/-- A field that is left out has the value of its own. -/
theorem missing (h : found name = none) (shape : Shape α) (default : α) :
    (Record.defaulted name shape default).Finds found default where
  make := by simp only [Record.defaulted, h]
  check := by
    intro field hfield other hother
    obtain rfl := List.mem_singleton.1 hfield
    exact nomatch h.symm.trans hother

/-- What a record makes may be passed on. -/
theorem map {record : Record α} (f : α → β) (h : record.Finds found a) :
    (f <$> record).Finds found (f a) where
  make := by
    change (record.make found).map f = _
    rw [h.make]
    rfl
  check := h.check

/-- Two records find their values together. -/
theorem seq {functions : Record (α → β)} {record : Record α} {f : α → β}
    (hf : functions.Finds found f) (h : record.Finds found a) :
    (functions <*> record).Finds found (f a) where
  make := by
    change (do return (← functions.make found) (← record.make found)) = _
    rw [hf.make, h.make]
    rfl
  check := by
    intro field hfield
    obtain hfield | hfield := List.mem_append.1 hfield
    · exact hf.check field hfield
    · exact h.check field hfield

end Finds

/-- Under a name that no other member has, its value is found. -/
theorem lookup_eq_some_iff {members : List (String × Json)} (h : (members.map Prod.fst).Nodup)
    {name : String} {value : Json} :
    members.lookup name = some value ↔ (name, value) ∈ members := by
  induction members with
  | nil => exact iff_of_false nofun List.not_mem_nil
  | cons first rest ih =>
    obtain ⟨hfirst, hrest⟩ := List.nodup_cons.1 h
    rw [List.lookup_cons]
    by_cases hname : name = first.1
    · subst hname
      have hnot : (first.1, value) ∉ rest := fun hmem => hfirst (List.mem_map.2 ⟨_, hmem, rfl⟩)
      simp [hnot, Prod.ext_iff, eq_comm]
    · have hne : (name, value) ≠ first := fun h => hname (congrArg Prod.fst h)
      rw [beq_eq_false_iff_ne.2 hname, ih hrest, List.mem_cons, or_iff_right hne]

/-- Members are gathered from the first to the last if each has a name of its own that is the name
of a field, and passes the check of that field. -/
theorem gather_eq {fields : List Field} {members : List (String × Json)}
    (hnames : (members.map Prod.fst).Nodup)
    (hknown : ∀ member ∈ members, ∃ field ∈ fields, field.name = member.1)
    (hcheck : ∀ member ∈ members, ∀ field ∈ fields, field.name = member.1 →
      field.check member.2 = .ok ())
    {found : List (String × Json)} (hfresh : ∀ member ∈ members, ∀ entry ∈ found,
      entry.1 ≠ member.1) :
    gather fields found (members.map fun (name, value) => (some name, value)) =
      .ok (members.reverse ++ found) := by
  induction members generalizing found with
  | nil => rfl
  | cons first rest ih =>
    obtain ⟨name, value⟩ := first
    obtain ⟨hfirst, hrest⟩ := List.nodup_cons.1 hnames
    obtain ⟨field, hfind⟩ :
        ∃ field, fields.find? (fun field => field.name = name) = some field := by
      obtain ⟨field, hfield, hname⟩ := hknown _ List.mem_cons_self
      exact Option.isSome_iff_exists.1 (List.find?_isSome.2 ⟨field, hfield, decide_eq_true hname⟩)
    have hname : field.name = name := by simpa using List.find?_some hfind
    have hpasses := hcheck _ List.mem_cons_self field (List.mem_of_find?_eq_some hfind) hname
    have hunfound : ¬ (found.any fun entry => entry.1 = name) = true := by
      rw [List.any_eq_true]
      rintro ⟨entry, hentry, heq⟩
      exact hfresh _ List.mem_cons_self entry hentry (of_decide_eq_true heq)
    rw [List.map_cons, gather, hfind]
    simp only [hunfound, hpasses]
    have hfresh : ∀ member ∈ rest, ∀ entry ∈ (name, value) :: found, entry.1 ≠ member.1 := by
      intro member hmember entry hentry heq
      obtain rfl | hentry := List.mem_cons.1 hentry
      · exact hfirst (List.mem_map.2 ⟨member, hmember, heq.symm⟩)
      · exact hfresh member (List.mem_cons_of_mem _ hmember) entry hentry heq
    rw [if_neg Bool.false_ne_true, ih hrest
      (fun member hmember => hknown member (List.mem_cons_of_mem _ hmember))
      (fun member hmember => hcheck member (List.mem_cons_of_mem _ hmember)) hfresh]
    simp

/-- Some members are complete and hold no number if their values are. -/
theorem havePlain_of_forall {members : List (String × Json)}
    (h : ∀ member ∈ members, member.2.IsPlain) :
    HavePlain (members.map fun (name, value) => (some name, value)) := by
  induction members with
  | nil => trivial
  | cons first rest ih =>
    exact ⟨rfl, h first List.mem_cons_self,
      ih fun member hmember => h member (List.mem_cons_of_mem _ hmember)⟩

/-- A record is read from an object that has its fields as members, each once. -/
theorem reads_record {record : Record α} {members : List (String × Json)} {a : α}
    (hdistinct : (record.fields.map Field.name).Nodup)
    (hmembers : (members.map Prod.fst).Sublist (record.fields.map Field.name))
    (h : record.Finds (List.lookup · members) a) : record.shape.Reads (.record members) a := by
  have hnames := hmembers.nodup hdistinct
  have hknown : ∀ member ∈ members, ∃ field ∈ record.fields, field.name = member.1 := by
    intro member hmember
    obtain ⟨field, hfield, hname⟩ := List.mem_map.1 (hmembers.subset (List.mem_map_of_mem hmember))
    exact ⟨field, hfield, hname⟩
  have hcheck : ∀ member ∈ members, ∀ field ∈ record.fields, field.name = member.1 →
      field.check member.2 = .ok () ∧ member.2.IsPlain := fun member hmember field hfield hname =>
    h.check field hfield member.2 ((lookup_eq_some_iff hnames).2 (by rwa [hname]))
  have hlookup : (List.lookup · members.reverse) = (List.lookup · members) := by
    funext name
    refine Option.ext fun value => ?_
    have hreverse : (members.reverse.map Prod.fst).Nodup := by
      rw [List.map_reverse]
      exact List.nodup_reverse.2 hnames
    rw [lookup_eq_some_iff hreverse, lookup_eq_some_iff hnames, List.mem_reverse]
  constructor
  · refine ⟨rfl, havePlain_of_forall fun member hmember => ?_⟩
    obtain ⟨field, hfield, hname⟩ := hknown member hmember
    exact (hcheck member hmember field hfield hname).2
  · have hgather : gather record.fields [] (members.map fun (name, value) => (some name, value)) =
        .ok (members.reverse ++ []) :=
      gather_eq hnames hknown (fun member hmember field hfield hname =>
        (hcheck member hmember field hfield hname).1) fun _ _ _ h => absurd h List.not_mem_nil
    simp only [shape, Json.record]
    rw [hgather, List.append_nil]
    exact (congrArg record.make hlookup).trans h.make

end Record

/-! ## Other shapes -/

namespace Shape

variable {shape : Shape α} {json : α → Json}

/-- A text is read as itself. -/
theorem reads_text (s : String) : Shape.text.Reads (.text s) s :=
  ⟨trivial, rfl⟩

/-- A truth value is read as itself. -/
theorem reads_bool (b : Bool) : Shape.bool.Reads (.bool b) b :=
  ⟨trivial, rfl⟩

/-- An id is read as itself. -/
theorem reads_ident {kind : Entity} (id : Ident kind) : Ident.shape.Reads id.json id :=
  ⟨trivial, rfl⟩

/-- An id that may be missing is read as itself. -/
theorem reads_ident? {kind : Entity} (id : Option (Ident kind)) :
    (Shape.nullable Ident.shape).Reads (.ofId? id) id := by
  cases id <;> exact ⟨trivial, rfl⟩

/-- A list is read item by item. -/
theorem reads_list (h : ∀ a, shape.Reads (json a) a) (as : List α) :
    (Shape.list shape).Reads (.array (as.map json)) as := by
  constructor
  · induction as with
    | nil => trivial
    | cons a as ih => exact ⟨(h a).plain, ih⟩
  · simp only [Shape.list]
    induction as with
    | nil => rfl
    | cons a as ih =>
      rw [List.map_cons, List.mapM_cons, (h a).reads, ih]
      rfl

/-- A table is read row by row. -/
theorem reads_table {kind : Entity} (h : ∀ a, shape.Reads (json a) a) (table : Table kind α) :
    (Shape.table shape).Reads (table.json json) table := by
  constructor
  · refine ⟨rfl, Record.havePlain_of_forall fun member hmember => ?_⟩
    obtain ⟨entry, -, rfl⟩ := List.mem_map.1 hmember
    exact (h entry.2).plain
  · have hrows {row : Option String × Json → Except Fault (Ident kind × α)}
        (hrow : ∀ entry : Ident kind × α, row (some entry.1.text, json entry.2) = .ok entry)
        (rows : List (Ident kind × α)) :
        ((rows.map fun entry => (entry.1.text, json entry.2)).map fun (name, value) =>
          (some name, value)).mapM row = .ok rows := by
      induction rows with
      | nil => rfl
      | cons entry rest ih =>
        rw [List.map_cons, List.map_cons, List.mapM_cons, ih, hrow]
        rfl
    have hread : Shape.table shape (table.json json) = .ok (Table.ofList table.rows) := by
      refine congrArg (· >>= fun rows => Except.ok (Table.ofList rows)) (hrows ?_ table.rows)
      intro entry
      simp only [(h entry.2).reads]
      rfl
    rw [hread, Table.ofList_rows]

/-- A value that is read may be passed on to a function that takes it. -/
theorem filterMap_eq {value : Json} {a : α} {b : β} {f : α → Option β} (h : shape value = .ok a)
    (hf : f a = some b) : Shape.filterMap shape f value = .ok b := by
  unfold Shape.filterMap
  rw [h]
  simp only [bind, Except.bind, hf]
  rfl

/-- An instant is read from its text. -/
theorem reads_instant (i : Time.Instant) : Time.Instant.shape.Reads i.json i :=
  ⟨trivial, filterMap_eq rfl (Time.Instant.ofText?_toText i)⟩

/-- A word is read as what it stands for. -/
theorem reads_word {meaning : String → Option α} {name : String} {a : α}
    (h : meaning name = some a) : (Shape.word meaning).Reads (.text name) a := by
  refine ⟨trivial, ?_⟩
  simp only [Shape.word, h]

end Shape

end Json

end Roster
