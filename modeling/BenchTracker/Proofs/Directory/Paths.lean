import BenchTracker.Directory
import BenchTracker.Proofs.Text.Fields

/-!
# The names of joined paths

A plain name below a folder is the last name of the joined path, whatever the folder's path looks
like.
-/

namespace BenchTracker

namespace Path

/-- A name that stands for itself in a path. -/
structure IsName (name : String) : Prop where
  slash : '/' ∉ name.toList
  ne_empty : name ≠ ""
  ne_dot : name ≠ "."
  ne_up : name ≠ ".."

variable {name : String}

theorem IsName.append (h : IsName name) {ending : String} (hslash : '/' ∉ ending.toList) :
    IsName (name ++ ending) := by
  -- A front part of one or two dots is empty or dots itself.
  have hfront (s t : List Char) (hst : s ++ t = ['.'] ∨ s ++ t = ['.', '.']) :
      s = [] ∨ s = ['.'] ∨ s = ['.', '.'] := by
    rcases s with _ | ⟨a, _ | ⟨b, _ | ⟨c, s⟩⟩⟩ <;> grind
  have hne (s : List Char) (hs : s = [] ∨ s = ['.'] ∨ s = ['.', '.']) : name.toList ≠ s := by
    rintro rfl
    rcases hs with hs | hs | hs
    · exact h.ne_empty (String.toList_inj.1 hs)
    · exact h.ne_dot (String.toList_inj.1 hs)
    · exact h.ne_up (String.toList_inj.1 hs)
  refine ⟨by simp [h.slash, hslash], fun heq => ?_, fun heq => ?_, fun heq => ?_⟩
  · exact h.ne_empty (String.append_eq_empty_iff.1 heq).1
  · have hlist : name.toList ++ ending.toList = ['.'] := by
      rw [← String.toList_append, heq]
      rfl
    exact hne _ (hfront _ _ (.inl hlist)) rfl
  · have hlist : name.toList ++ ending.toList = ['.', '.'] := by
      rw [← String.toList_append, heq]
      rfl
    exact hne _ (hfront _ _ (.inr hlist)) rfl

theorem IsName.names_eq (h : IsName name) : names name = [name] := by
  simp [names, Text.fields_of_not_mem h.slash, h.ne_empty, h.ne_dot]

theorem IsName.isAbsolute_eq_false (h : IsName name) : isAbsolute name = false := by
  have hhead : name.toList.head? ≠ some '/' := fun hhead =>
    h.slash (List.mem_of_mem_head? (Option.mem_def.2 hhead))
  simp [isAbsolute, hhead]

@[simp] theorem names_append_slash (folder name : String) :
    names (folder ++ "/" ++ name) = names folder ++ names name := by
  have hlist : (folder ++ "/" ++ name).toList = folder.toList ++ '/' :: name.toList := by simp
  simp only [names, hlist, Text.fields_append, List.map_append, List.filter_append]

/-- A path has a name if it has a character that is neither a slash nor a dot. -/
theorem names_ne_nil {path : String} {c : Char} (h : c ∈ path.toList) (hslash : c ≠ '/')
    (hdot : c ≠ '.') : names path ≠ [] := by
  obtain ⟨f, hf, hc⟩ := Text.exists_mem_fields h hslash
  apply List.ne_nil_of_mem (a := String.ofList f)
  refine List.mem_filter.2 ⟨List.mem_map_of_mem hf, decide_eq_true ⟨?_, ?_⟩⟩
  · intro hempty
    rw [String.ofList_eq_empty_iff.1 hempty] at hc
    cases hc
  · intro heq
    have hf : f = ['.'] := by rw [← String.toList_ofList (l := f), heq]; rfl
    exact hdot (List.mem_singleton.1 (hf ▸ hc))

theorem exists_of_getLast? {folder : String} (h : folder.toList.getLast? = some '/') :
    ∃ front, folder = front ++ "/" := by
  obtain ⟨front, hfront⟩ := List.getLast?_eq_some_iff.1 h
  exact ⟨String.ofList front, by rw [← String.toList_inj]; simp [hfront]⟩

theorem join_cases (folder : String) (h : isAbsolute name = false) :
    folder = "" ∧ join folder name = name ∨
      (∃ front, folder = front ++ "/" ∧ join folder name = front ++ "/" ++ name) ∨
      folder ≠ "" ∧ join folder name = folder ++ "/" ++ name := by
  by_cases hempty : folder = ""
  · exact .inl ⟨hempty, by simp [join, hempty]⟩
  · have hjoin : ¬ (folder = "" ∨ isAbsolute name = true) := by
      simp [hempty, h]
    rw [join, if_neg hjoin]
    split
    · obtain ⟨front, rfl⟩ := exists_of_getLast? ‹_›
      exact .inr (.inl ⟨front, rfl, rfl⟩)
    · exact .inr (.inr ⟨hempty, rfl⟩)

/-- The names of the one path stand in front of those of the other. -/
theorem names_join (folder : String) (h : isAbsolute name = false) :
    names (join folder name) = names folder ++ names name := by
  rcases join_cases folder h with ⟨rfl, hjoin⟩ | ⟨front, rfl, hjoin⟩ | ⟨-, hjoin⟩
  · rw [hjoin]
    rfl
  · have hfront : names (front ++ "/") = names front := by
      have hslash := names_append_slash front ""
      rwa [String.append_empty, show names "" = [] from rfl, List.append_nil] at hslash
    rw [hjoin, names_append_slash, hfront]
  · rw [hjoin, names_append_slash]

/-- The name is the last one of the joined path. -/
theorem IsName.names_join (folder : String) (h : IsName name) :
    names (join folder name) = names folder ++ [name] := by
  rw [Path.names_join folder h.isAbsolute_eq_false, h.names_eq]

theorem isAbsolute_append {folder : String} (h : folder ≠ "") (s : String) :
    isAbsolute (folder ++ s) = isAbsolute folder := by
  have hne : folder.toList ≠ [] := fun hnil => h (by rw [← String.toList_inj]; simpa using hnil)
  obtain ⟨c, r, hcr⟩ := List.exists_cons_of_ne_nil hne
  simp [isAbsolute, hcr]

theorem isAbsolute_join (folder : String) (h : isAbsolute name = false) :
    isAbsolute (join folder name) = isAbsolute folder := by
  rcases join_cases folder h with ⟨rfl, hjoin⟩ | ⟨front, rfl, hjoin⟩ | ⟨hne, hjoin⟩
  · rw [hjoin, h]
    rfl
  · rw [hjoin, isAbsolute_append (by simp)]
  · rw [hjoin, String.append_assoc, isAbsolute_append hne]

theorem join_ne_empty (folder : String) (h : name ≠ "") : join folder name ≠ "" := by
  unfold join
  split
  · exact h
  · split
    · exact fun hempty => h (String.append_eq_empty_iff.1 hempty).2
    · exact fun hempty => h (String.append_eq_empty_iff.1 hempty).2

/-- What is appended to a joined path belongs to the name. -/
theorem join_append (folder ending : String) (h : IsName name) :
    join folder name ++ ending = join folder (name ++ ending) := by
  have habsolute := h.isAbsolute_eq_false
  have habsolute' : isAbsolute (name ++ ending) = false := by
    rw [isAbsolute_append h.ne_empty, habsolute]
  simp only [join, habsolute, habsolute']
  split
  · rfl
  · split
    · rw [String.append_assoc]
    · rw [String.append_assoc]

/-! ## Paths without their last name -/

theorem mem_names {path : String} (h : name ∈ names path) :
    '/' ∉ name.toList ∧ name ≠ "" ∧ name ≠ "." := by
  obtain ⟨hfield, hkept⟩ := List.mem_filter.1 h
  obtain ⟨f, hf, rfl⟩ := List.mem_map.1 hfield
  rw [String.toList_ofList]
  exact ⟨Text.not_mem_of_mem_fields hf, of_decide_eq_true hkept⟩

/-- Names with slashes between them are the names of a path. -/
theorem names_intercalate {ns : List String}
    (h : ∀ n ∈ ns, '/' ∉ n.toList ∧ n ≠ "" ∧ n ≠ ".") :
    names (String.ofList (['/'].intercalate (ns.map String.toList))) = ns := by
  rcases ns.eq_nil_or_concat with rfl | ⟨front, last, hns⟩
  · rfl
  have hne : ns.map String.toList ≠ [] := by simp [hns]
  have hfields : ∀ f ∈ ns.map String.toList, '/' ∉ f :=
    List.forall_mem_map.2 fun n hn => (h n hn).1
  rw [names, String.toList_ofList, Text.fields_intercalate hne hfields, List.map_map]
  have hid : String.ofList ∘ String.toList = id := funext fun n => String.ofList_toList
  rw [hid, List.map_id, List.filter_eq_self]
  exact fun n hn => decide_eq_true (h n hn).2

@[simp] theorem names_parent (path : String) : names (parent path) = (names path).dropLast := by
  have hfront : ∀ n ∈ (names path).dropLast, '/' ∉ n.toList ∧ n ≠ "" ∧ n ≠ "." := fun n hn =>
    mem_names (List.dropLast_subset _ hn)
  have hnames := names_intercalate hfront
  rw [parent]
  split
  · rw [← String.empty_append (s := "/"), names_append_slash, hnames]
    rfl
  · rw [String.empty_append, hnames]

@[simp] theorem isAbsolute_parent (path : String) : isAbsolute (parent path) = isAbsolute path := by
  rw [parent]
  split
  · rename_i habsolute
    rw [habsolute, isAbsolute_append (by decide)]
    rfl
  · rename_i hrelative
    rw [String.empty_append]
    cases hfront : (names path).dropLast with
    | nil => simpa [isAbsolute] using hrelative
    | cons n rest =>
      obtain ⟨hslash, hempty, -⟩ :=
        mem_names (List.dropLast_subset _ (hfront ▸ List.mem_cons_self))
      obtain ⟨c, cs, hcs⟩ := List.exists_cons_of_ne_nil
        (fun hnil => hempty (String.toList_inj.1 hnil) : n.toList ≠ [])
      have hc : c ≠ '/' := fun heq => hslash (by simp [hcs, heq])
      cases rest <;> simp_all [isAbsolute]

end Path

end BenchTracker
