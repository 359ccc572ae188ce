import BatchFile.Footer.Basic
import BatchFile.Json.Decoder
import BatchFile.Json.Writer

/-!
# Footers as JSON

A footer is an object whose only member `batches` is the list of its summaries, each an
object with the members `offset` and `record_count`.
-/

namespace BatchFile

namespace BatchSummary

/-- The compact text of a summary. -/
def toJson (s : BatchSummary) : Bytes :=
  Json.writeObject
    [("offset", Json.writeWord s.offset), ("record_count", Json.writeWord s.recordCount)]

/-- The members of a summary. -/
def members : List (Json.Member UInt64) :=
  [⟨"offset", none⟩, ⟨"record_count", none⟩]

/-- The summary with the given values of its members. -/
def ofMembers (values : List UInt64) : BatchSummary :=
  ⟨values.getD 0 0, values.getD 1 0⟩

/-- The decoder of summaries. -/
def decoder : Json.Decoder BatchSummary :=
  (Json.record Json.word members).map ofMembers

end BatchSummary

namespace FileFooter

/-- The compact text of a footer. -/
def toJson (f : FileFooter) : Bytes :=
  Json.writeObject [("batches", Json.writeList (f.batches.map BatchSummary.toJson))]

/-- The decoder of footers. -/
def decoder : Json.Decoder FileFooter :=
  (Json.record (Json.list BatchSummary.decoder) [⟨"batches", none⟩]).map
    fun values => ⟨values.headD []⟩

/-- The footer that a text stands for. -/
def ofJson (text : Bytes) : Except Json.Fault FileFooter :=
  Json.parse decoder text

end FileFooter

end BatchFile
