import BenchTracker.Proofs.Cache.Loading
import BenchTracker.Proofs.Directory.Steps

/-!
# Folders that are not there yet

A path can go up again from a folder that is missing. Nothing behind it can be read until a save
makes that folder, and then files of the cache come to light that were out of reach before.
-/

namespace BenchTracker

namespace Cache

open Directory

variable {c : Cache} {d : Directory}

/-- The tree with the folder of a cache. -/
def made (c : Cache) (d : Directory) : Directory := (d.makeFolders c.folder).1

/-- Making the folder of a cache brings no file of it to light. -/
def Settled (c : Cache) (d : Directory) : Prop := c.SameFiles d (c.made d)

/-- A folder that is there hides nothing. -/
theorem settled_of_isFolder {q : Place} (hq : d.IsFolder c.folder q) : c.Settled d := by
  rw [Settled, made, hq.makeFolders_eq]
  exact .refl c d

/-- Nor does one that is missing, unless its path goes up again from a folder that is made. -/
theorem settled_of_rooted (hrooted : d.Rooted) (hdown : ".." ∉ Path.names c.folder) :
    c.Settled d := by
  have hframes (name : String) : Frames name d (c.made d) := frames_makeFolders name d c.folder
  have htext {name : String} (hname : Path.IsName name) :
      (c.made d).text? (Path.join c.folder name) = d.text? (Path.join c.folder name) := by
    ext text
    rw [text?_eq_some, text?_eq_some]
    refine ⟨fun hread => ?_, (hframes name).read hname⟩
    obtain ⟨q, ⟨hwalk, -⟩, hshort, hmade⟩ := (read_join hname).1 hread
    have hentry := ((hframes name).file q text).1 hmade
    have hfolder := hrooted name q _ hentry
    have hstart : (c.made d).start c.folder = d.start c.folder := by
      simp only [start, (hframes name).current]
    rw [hstart] at hwalk
    exact (read_join hname).2 ⟨q, ⟨hrooted.walk_eq hdown hwalk hfolder, hfolder⟩, hshort, hentry⟩
  exact ⟨htext (isName_series c), htext (isName_watermark c)⟩

end Cache

end BenchTracker
