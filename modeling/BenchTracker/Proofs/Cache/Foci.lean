import BenchTracker.Proofs.Cache.Settled

/-!
# Caches of several focus kernels in one folder

A kernel can be told from its text, so the files of a cache have names that no other focus uses.
Saving one cache is therefore nothing to another one, but for the folder that both of them need.
-/

namespace BenchTracker

/-! ## Names -/

theorem Numeral.digits_inj {limit m n : Nat} (hm : m < limit) (hn : n < limit)
    (h : digits m = digits n) : m = n := by
  have hread := read_digits hm
  rw [h, read_digits hn] at hread
  exact (Except.ok.inj hread).symm

/-- What stands in front of the first separator. -/
theorem Text.front_inj {separator : Char} {s t u v : List Char} (hs : separator ∉ s)
    (ht : separator ∉ t) (h : s ++ separator :: u = t ++ separator :: v) : s = t ∧ u = v := by
  have hfields := congrArg (fields separator) h
  rw [fields_append, fields_append, fields_of_not_mem hs, fields_of_not_mem ht] at hfields
  obtain rfl : s = t := (List.cons.inj hfields).1
  exact ⟨rfl, (List.cons.inj (List.append_cancel_left h)).2⟩

/-- Kernels with the same text are the same. -/
theorem Kernel.text_inj {k k' : Kernel} (h : k.text = k'.text) : k = k' := by
  have hlist (k : Kernel) : k.text.toList = Numeral.digits k.m.toNat ++
      'x' :: (Numeral.digits k.n.toNat ++ 'x' :: Numeral.digits k.k.toNat) := by
    simp [text, Numeral.text]
  have hdigits : ∀ n, 'x' ∉ Numeral.digits n := Numeral.not_mem_digits rfl
  have hinj {a b : UInt64} (hab : Numeral.digits a.toNat = Numeral.digits b.toNat) : a = b :=
    UInt64.toNat_inj.1 (Numeral.digits_inj a.toNat_lt b.toNat_lt hab)
  have htext := congrArg String.toList h
  rw [hlist, hlist] at htext
  obtain ⟨hm, hrest⟩ := Text.front_inj (hdigits _) (hdigits _) htext
  obtain ⟨hn, hk⟩ := Text.front_inj (hdigits _) (hdigits _) hrest
  cases k
  cases k'
  rw [mk.injEq]
  exact ⟨hinj hm, hinj hn, hinj hk⟩

namespace Cache

open Directory

variable {c c' : Cache} {d d' : Directory} {s : Store} {watermark : Nat}

/-- The names of the two files, and of those that are renamed to them. -/
def names (c : Cache) : List String :=
  [".json", ".json.tmp", ".last", ".last.tmp"].map c.fileName

theorem isName_of_mem_names {name : String} (h : name ∈ c.names) : Path.IsName name := by
  obtain ⟨ending, hending, rfl⟩ := List.mem_map.1 h
  have hslash : ∀ ending ∈ [".json", ".json.tmp", ".last", ".last.tmp"],
      '/' ∉ ending.toList := by decide
  exact isName_fileName c (hslash ending hending)

/-- Every ending begins with a dot, and no kernel has one. -/
theorem focus_eq_of_fileName_eq {ending ending' : String} (hdot : ending.toList.head? = some '.')
    (hdot' : ending'.toList.head? = some '.') (h : c.fileName ending = c'.fileName ending') :
    c.focus = c'.focus := by
  obtain ⟨rest, hrest⟩ := List.head?_eq_some_iff.1 hdot
  obtain ⟨rest', hrest'⟩ := List.head?_eq_some_iff.1 hdot'
  rw [fileName, fileName, String.append_assoc, String.append_assoc, String.append_right_inj] at h
  have hlist := congrArg String.toList h
  rw [String.toList_append, String.toList_append, hrest, hrest'] at hlist
  have hfront := Text.front_inj (not_mem_text rfl (by decide) _) (not_mem_text rfl (by decide) _)
    hlist
  exact Kernel.text_inj (String.toList_inj.1 hfront.1)

/-- Caches of different kernels have no name in common. -/
theorem not_mem_names (h : c.focus ≠ c'.focus) : ∀ name ∈ c.names, name ∉ c'.names := by
  intro name hname hname'
  obtain ⟨ending, hending, rfl⟩ := List.mem_map.1 hname
  obtain ⟨ending', hending', heq⟩ := List.mem_map.1 hname'
  have hdot : ∀ ending ∈ [".json", ".json.tmp", ".last", ".last.tmp"],
      ending.toList.head? = some '.' := by decide
  exact h (focus_eq_of_fileName_eq (hdot ending' hending') (hdot ending hending) heq).symm

/-! ## Saving -/

/-- The steps that replace the two files. -/
def replaceBoth (c : Cache) (s : Store) (watermark : Nat) : List Step :=
  replaceSteps c.seriesPath s.toJson.pretty ++
    replaceSteps c.watermarkPath (Numeral.text watermark ++ "\n")

theorem on_replaceSteps {ending text : String} {step : Step} (hslash : '/' ∉ ending.toList)
    (hmem : c.fileName ending ∈ c.names) (htmp : c.fileName (ending ++ ".tmp") ∈ c.names)
    (h : step ∈ replaceSteps (Path.join c.folder (c.fileName ending)) text) :
    step.On c.folder c.names := by
  rw [replaceSteps, Path.join_append c.folder ".tmp" (isName_fileName c hslash),
    fileName_append] at h
  rcases List.mem_pair.1 h with rfl | rfl
  · exact .write text htmp
  · exact .rename htmp hmem

theorem on_replaceBoth : ∀ step ∈ c.replaceBoth s watermark, step.On c.folder c.names := by
  have hmem {ending : String} (h : ending ∈ [".json", ".json.tmp", ".last", ".last.tmp"]) :
      c.fileName ending ∈ c.names := List.mem_map_of_mem h
  intro step hstep
  rcases List.mem_append.1 hstep with hstep | hstep
  · exact on_replaceSteps (by decide) (hmem (by decide)) (hmem (by decide)) hstep
  · exact on_replaceSteps (by decide) (hmem (by decide)) (hmem (by decide)) hstep

theorem fst_save (c : Cache) (d : Directory) (s : Store) (watermark : Nat) :
    (c.save d s watermark).1 =
      if (d.makeFolders c.folder).2 = none then
        ((c.made d).performAll (c.replaceBoth s watermark)).1
      else c.made d := by
  have hsteps : c.saveSteps s watermark = .makeFolders c.folder :: c.replaceBoth s watermark := rfl
  simp only [save, hsteps, performAll, perform, made]
  cases hmake : d.makeFolders c.folder with
  | mk made fault => cases fault <;> rfl

/-- Once a cache is saved its folder is made, or fails to be made as before. -/
theorem makeFolders_save (c : Cache) (d : Directory) (s : Store) (watermark : Nat) :
    (c.save d s watermark).1.makeFolders c.folder =
      ((c.save d s watermark).1, (d.makeFolders c.folder).2) := by
  rw [fst_save]
  split
  · rename_i hmade
    have hkeeps : KeepsFolders (c.made d) ((c.made d).performAll (c.replaceBoth s watermark)).1 :=
      keepsFolders_performAll (fun _ => isName_of_mem_names) on_replaceBoth _
    exact makeFolders_again hkeeps fun hfault => absurd hmade hfault
  · exact makeFolders_again (.refl _) fun _ => rfl

/-! ## Trees that are the same to a cache -/

/-- Two trees that a cache cannot tell apart: it loads the same from both of them, and saving does
the same to both. -/
structure Alike (c : Cache) (d d' : Directory) : Prop extends SameFiles c d d' where
  fault : (d'.makeFolders c.folder).2 = none ↔ (d.makeFolders c.folder).2 = none
  agree : Agree c.folder c.names (c.made d) (c.made d')

theorem Alike.refl (c : Cache) (d : Directory) : c.Alike d d := ⟨.refl c d, .rfl, .refl _ _ _⟩

theorem Alike.symm (h : c.Alike d d') : c.Alike d' d :=
  ⟨h.toSameFiles.symm, h.fault.symm, fun name hname => (h.agree name hname).symm⟩

theorem Alike.trans {d'' : Directory} (h : c.Alike d d') (h' : c.Alike d' d'') : c.Alike d d'' :=
  ⟨h.toSameFiles.trans h'.toSameFiles, h'.fault.trans h.fault, h.agree.trans h'.agree⟩

theorem sameFiles_of_agree (h : Agree c.folder c.names d d') : c.SameFiles d d' :=
  ⟨text?_eq_of_look_eq (h (c.fileName ".json") (List.mem_map_of_mem (by decide))),
    text?_eq_of_look_eq (h (c.fileName ".last") (List.mem_map_of_mem (by decide)))⟩

/-- In a folder that is there, a cache depends on what stands under its names. -/
theorem alike_of_spares {q : Place} (hq : d.IsFolder c.folder q)
    (h : ∀ name ∈ c.names, Spares name d d') : c.Alike d d' := by
  have hmem : c.fileName ".json" ∈ c.names := List.mem_map_of_mem (by decide)
  have hq' : d'.IsFolder c.folder q := (h _ hmem).isFolder hq
  have hagree : Agree c.folder c.names d d' := fun name hname => by
    rw [look_join (isName_of_mem_names hname) hq', look_join (isName_of_mem_names hname) hq,
      (h name hname).entry]
  refine ⟨sameFiles_of_agree hagree, ?_, ?_⟩
  · rw [hq.makeFolders_eq, hq'.makeFolders_eq]
  · rwa [made, made, hq.makeFolders_eq, hq'.makeFolders_eq]

theorem Alike.settled (h : c.Alike d d') (hsettled : c.Settled d) : c.Settled d' :=
  h.toSameFiles.symm.trans (hsettled.trans (sameFiles_of_agree h.agree))

/-- Saving does the same to trees that a cache cannot tell apart. -/
theorem Alike.save (h : c.Alike d d') (s : Store) (watermark : Nat) :
    c.Alike (c.save d s watermark).1 (c.save d' s watermark).1 := by
  have hagree : Agree c.folder c.names (c.save d s watermark).1 (c.save d' s watermark).1 := by
    rw [fst_save, fst_save]
    by_cases hmade : (d.makeFolders c.folder).2 = none
    · rw [if_pos hmade, if_pos (h.fault.2 hmade)]
      exact h.agree.performAll (fun _ => isName_of_mem_names) on_replaceBoth
    · rw [if_neg hmade, if_neg (mt h.fault.1 hmade)]
      exact h.agree
  refine ⟨sameFiles_of_agree hagree, ?_, ?_⟩
  · rw [makeFolders_save, makeFolders_save]
    exact h.fault
  · rwa [made, made, makeFolders_save, makeFolders_save]

/-- To a cache, a tree is the same after the one of another kernel was saved in its folder. -/
theorem alike_save (hfolder : c'.folder = c.folder) (hfocus : c.focus ≠ c'.focus)
    (hsettled : c.Settled d) (s : Store) (watermark : Nat) :
    c.Alike d (c'.save d s watermark).1 := by
  have hagree : Agree c.folder c.names (c.made d) (c'.save d s watermark).1 := by
    rw [fst_save, made, made, hfolder]
    split
    · have hsteps : ∀ step ∈ c'.replaceBoth s watermark, step.On c'.folder c'.names :=
        on_replaceBoth
      rw [hfolder] at hsteps
      exact agree_performAll (fun _ => isName_of_mem_names) (fun _ => isName_of_mem_names)
        (not_mem_names hfocus) hsteps _
    · exact .refl _ _ _
  have hmake := makeFolders_save c' d s watermark
  rw [hfolder] at hmake
  refine ⟨hsettled.trans (sameFiles_of_agree hagree), ?_, ?_⟩
  · rw [hmake]
  · rwa [made, made, hmake]

/-- However a cache is saved, no file comes to light later on. -/
theorem settled_save (hfolder : c'.folder = c.folder) (d : Directory) (s : Store)
    (watermark : Nat) : c.Settled (c'.save d s watermark).1 := by
  have hmake := makeFolders_save c' d s watermark
  rw [hfolder] at hmake
  rw [Settled, made, hmake]
  exact .refl c _

end Cache

end BenchTracker
