import BenchTracker.Proofs.Json.Mapped
import BenchTracker.Store.Json

/-!
# Written stores as they stand

A written store may repeat a step, a device of a step or a build of a series. What stands there is
read first, repetitions included, and the store is made of it afterwards.
-/

namespace BenchTracker

open Json (Fault Reader)

/-- The steps, devices and samples of a written store in the order of the text. -/
abbrev Document := List (String × List (String × List Sample))

namespace Document

def reader : Reader Document := Reader.fieldsOf (Reader.fieldsOf (Reader.listOf Sample.reader))

def read (text : String) : Except Fault Document := Reader.readAll reader text

/-- The devices of a step: of two with one name the last one counts. -/
def devices (es : List (String × List Sample)) : DeviceSeries :=
  .ofList (es.map (Prod.map id Series.ofList))

/-- The store that is written: of two steps with one name the last one counts. -/
def store (d : Document) : Store := ⟨.ofList (d.map (Prod.map id devices))⟩

end Document

theorem Store.devicesReader_eq :
    devicesReader =
      Reader.mapped Document.devices (Reader.fieldsOf (Reader.listOf Sample.reader)) := by
  change Reader.mapped _ (Reader.fieldsOf (Reader.mapped _ _)) = _
  rw [Reader.fieldsOf_mapped, Reader.mapped_mapped]
  rfl

/-- A text is a store exactly if it is a document, and then it is the store of the document. -/
theorem Store.read_eq_map (text : String) :
    Store.read text = (Document.read text).map Document.store := by
  have hreader : reader = Reader.mapped Document.store Document.reader := by
    change Reader.mapped (fun es => Store.mk (.ofList es)) (Reader.fieldsOf devicesReader) = _
    rw [devicesReader_eq, Reader.fieldsOf_mapped, Reader.mapped_mapped]
    rfl
  rw [Store.read, hreader, Reader.readAll_mapped]
  rfl

end BenchTracker
