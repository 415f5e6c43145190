import Memberwise.Proofs.Calendar.Iso
import Memberwise.Proofs.Conversion.Instance
import Memberwise.Proofs.Conversion.Numbers

/-! # Conversions between moments and their texts

A moment that is converted into a text and back is the same moment: the text leaves out what is
zero, and the reader fills it in again.
-/

namespace Memberwise.Conversion

variable {classes : Classes} {known : SchemaCache}

theorem convertWith_datetime_str (moment : Moment) :
    convertWith classes known (.atom (.datetime moment)) (.builtin .str) =
      .ok (.atom (.str (String.ofList moment.text))) :=
  convertWith_scalar (scalarKind?_builtin classes .str) (a := .datetime moment) rfl rfl known

theorem convertWith_str_datetime {moment : Moment} (h : ∀ o ∈ moment.offset, Offset.IsWhole o) :
    convertWith classes known (.atom (.str (String.ofList moment.text))) (.builtin .datetime) =
      .ok (.atom (.datetime moment)) := by
  have hread : Iso.read (Text.trim (String.ofList moment.text).toList) = .ok moment := by
    rw [String.toList_ofList, Iso.trim_text h, Iso.read_text h]
  refine (convertWith_scalar (scalarKind?_builtin classes .datetime) rfl rfl known).trans ?_
  simp only [convertScalar, toMoment, hread]

/-- A moment returns from its text with its date, its time of day to the microsecond and its offset
or the want of one, if the offset is a whole number of seconds. -/
theorem convertWith_moment_roundTrip (classes : Classes) (known known' : SchemaCache)
    (moment : Moment) (h : ∀ o ∈ moment.offset, o.micros % 1000000 = 0) : ∃ s,
      convertWith classes known (.atom (.datetime moment)) (.builtin .str) =
        .ok (.atom (.str s)) ∧
      convertWith classes known' (.atom (.str s)) (.builtin .datetime) =
        .ok (.atom (.datetime moment)) :=
  ⟨_, convertWith_datetime_str moment, convertWith_str_datetime h⟩

/-- A microsecond of the first year, west of universal time by an offset with seconds. -/
theorem convertWith_moment_roundTrip_west :
    (-86399000000 : Int) % 1000000 = 0 ∧
      convertWith [] .empty (.atom (.str "0001-02-03 04:05:06.000007-23:59:59"))
        (.builtin .datetime) = .ok (.atom (.datetime
          ⟨⟨1, 2, 3, by decide⟩, ⟨4, 5, 6, 7, by decide⟩, some ⟨-86399000000, by decide⟩⟩)) := by
  have hwhole : (-86399000000 : Int) % 1000000 = 0 := by decide
  obtain ⟨s, hs, hread⟩ := convertWith_moment_roundTrip [] .empty .empty
    ⟨⟨1, 2, 3, by decide⟩, ⟨4, 5, 6, 7, by decide⟩, some ⟨-86399000000, by decide⟩⟩
    fun o ho => by
      cases ho
      exact hwhole
  have hs' : convertWith [] .empty (.atom (.datetime
      ⟨⟨1, 2, 3, by decide⟩, ⟨4, 5, 6, 7, by decide⟩, some ⟨-86399000000, by decide⟩⟩))
      (.builtin .str) = .ok (.atom (.str "0001-02-03 04:05:06.000007-23:59:59")) := by cbv
  rw [hs'] at hs
  cases hs
  exact ⟨hwhole, hread⟩

end Memberwise.Conversion
