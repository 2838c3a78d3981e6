import CronSchedule.Proofs.Expression.Normal
import CronSchedule.Proofs.Schedule.Read
import CronSchedule.Schedule.Document
import CronSchedule.Zone.Database

/-!
# Reading a schedule back from its text

A schedule keeps the normalized text that it was read from. That text is its own normal
form (`normalize_of_read`), so it is read again with the same outcome, whatever the zone
(`read_text_of_read`); and since the zone is the only thing that is not in the text, the
document of a schedule has all of it (`roundTrip_of_read`).
-/

namespace CronSchedule

namespace Schedule

open Expression Text

variable {s : Schedule} {yearLimit : Nat} {zone other : Zone} {text : String}

/-! ## The text -/

section

variable (hlimit : yearLimit ≤ Cursor.greatestNumber)
include hlimit

/-- **The normal form of an expression** is spaces and the characters of fields. -/
theorem isFieldChar_of_read (h : read yearLimit zone text = .ok s) :
    ∀ c ∈ normalize text.toList, c = ' ' ∨ IsFieldChar c := by
  obtain ⟨fs, items, hfs, hitems, -, -⟩ :=
    (ofNormalized_eq_ok (firstYear_le_of_read h) hlimit).1 h
  intro c hc
  refine or_iff_not_imp_left.2 fun hspace => ?_
  obtain ⟨piece, hpiece, hmem⟩ := (exists_mem_split hspace).2 hc
  have hfield : piece ∈ fieldTexts (normalize text.toList) := by
    refine List.mem_filter.2 ⟨hpiece, ?_⟩
    simpa using List.ne_nil_of_mem hmem
  -- There are no more fields in the text than an expression has.
  have hcount : (fieldTexts (normalize text.toList)).length ≤ Field.all.length := by
    rcases exists_fieldTokens.1 ⟨fs, hfs⟩ with h | h <;> simp [h, Field.all]
  rw [← List.map_snd_zip hcount] at hfield
  obtain ⟨⟨field, chars⟩, hzip, rfl⟩ := List.mem_map.1 hfield
  rw [(fieldTokens_spec hfs).2 field chars hzip] at hmem
  exact (hitems field).isFieldChar c hmem

theorem normalize_of_read (h : read yearLimit zone text = .ok s) :
    s.text = String.ofList (normalize text.toList) ∧
      normalize (normalize text.toList) = normalize text.toList := by
  refine ⟨?_, normalize_normalize (isFieldChar_of_read hlimit h)⟩
  obtain ⟨fs, items, -, -, -, rfl⟩ := (ofNormalized_eq_ok (firstYear_le_of_read h) hlimit).1 h
  rfl

/-- **The text of a schedule is read as that schedule**, in any zone. -/
theorem read_text_of_read (h : read yearLimit zone text = .ok s) :
    read yearLimit other s.text = .ok (s.inZone other) := by
  have hfirst := firstYear_le_of_read h
  obtain ⟨htext, hnormal⟩ := normalize_of_read hlimit h
  obtain ⟨fs, items, hfs, hitems, hday, rfl⟩ := (ofNormalized_eq_ok hfirst hlimit).1 h
  rw [read, htext, String.toList_ofList, hnormal]
  exact (ofNormalized_eq_ok hfirst hlimit).2 ⟨fs, items, hfs, hitems, hday, rfl⟩

end

/-! ## The zone -/

/-- However often the zone is set, only the zone changes, to one of those given. -/
theorem foldl_inZone (zones : List Zone) :
    ∃ last ∈ s.zone :: zones, zones.foldl inZone s = s.inZone last := by
  induction zones generalizing s with
  | nil => exact ⟨s.zone, List.mem_cons_self, rfl⟩
  | cons next later ih =>
    obtain ⟨last, hmem, heq⟩ := @ih (s.inZone next)
    exact ⟨last, List.mem_cons_of_mem _ hmem, heq⟩

/-- **A document gives the schedule** whose text and zone it holds. -/
theorem ofJson_toJson {zoneOf : String → Option Zone} (hzone : zoneOf s.zone.name = some s.zone)
    (hread : read yearLimit s.zone s.text = .ok s) :
    ofJson yearLimit zoneOf s.toJson = .ok s := by
  have hbuild : build yearLimit zoneOf s.zone.name s.text = .ok s := by
    simp only [build, hzone, hread]
    rfl
  show Except.mapError _ (build yearLimit zoneOf s.zone.name s.text) = _
  rw [hbuild]
  rfl

/-- **A schedule is what its text and its zone say**, also after the zone was set anew. Its
text is ASCII and its own normal form, reading it gives the schedule, and so does taking
it from the document. -/
theorem roundTrip_of_read {yearLimit : UInt32} {zones : List Zone} {zoneOf : String → Option Zone}
    {e : Schedule} (h : read yearLimit.toNat zone text = .ok s)
    (hzones : ∀ z ∈ zone :: zones, zoneOf z.name = some z) (he : zones.foldl inZone s = e) :
    (∀ c ∈ e.text.toList, c.toNat < 128) ∧
      String.ofList (normalize e.text.toList) = e.text ∧
      read yearLimit.toNat e.zone e.text = .ok e ∧
      ofJson yearLimit.toNat zoneOf e.toJson = .ok e := by
  have hlimit : yearLimit.toNat ≤ Cursor.greatestNumber := Nat.le_of_lt_succ yearLimit.toNat_lt
  obtain ⟨last, hmem, hlast⟩ := foldl_inZone (s := s) zones
  rw [zone_of_read hlimit h] at hmem
  obtain rfl : s.inZone last = e := hlast.symm.trans he
  have hread : read yearLimit.toNat last s.text = .ok (s.inZone last) :=
    read_text_of_read hlimit h
  obtain ⟨htext, hnormal⟩ := normalize_of_read hlimit h
  have hchars : s.text.toList = normalize text.toList := by rw [htext, String.toList_ofList]
  refine ⟨?_, ?_, hread, ofJson_toJson (hzones last hmem) hread⟩
  · show ∀ c ∈ s.text.toList, c.toNat < 128
    rw [hchars]
    intro c hc
    rcases isFieldChar_of_read hlimit h c hc with rfl | hchar
    · decide
    · exact hchar.toNat_lt
  · show String.ofList (normalize s.text.toList) = s.text
    rw [hchars, hnormal, htext]

/-- A space as wide as an `m`, a long `s` and an `i` without its dot: all of them are
gone from the normal form. -/
theorem roundTrip_otherScripts :
    ∃ s, read (2125 : UInt32).toNat .europeBerlin "0 0\u20039 ? * \u017fun-fr\u0131" = .ok s ∧
      s.text = "0 0 9 ? * SUN-FRI" ∧
      (∀ z ∈ [.europeBerlin, .asiaTokyo], Zone.ofName? z.name = some z) ∧
      (∀ c ∈ (s.inZone .asiaTokyo).text.toList, c.toNat < 128) ∧
      String.ofList (normalize (s.inZone .asiaTokyo).text.toList) = (s.inZone .asiaTokyo).text ∧
      read (2125 : UInt32).toNat .asiaTokyo (s.inZone .asiaTokyo).text =
        .ok (s.inZone .asiaTokyo) ∧
      ofJson (2125 : UInt32).toNat Zone.ofName? (s.inZone .asiaTokyo).toJson =
        .ok (s.inZone .asiaTokyo) := by
  have hzones : ∀ z ∈ [.europeBerlin, .asiaTokyo], Zone.ofName? z.name = some z := by
    decide +kernel
  obtain ⟨s, hs, htext⟩ := exists_of_bind_eq_some
    (by decide +kernel : (read (2125 : UInt32).toNat .europeBerlin
      "0 0\u20039 ? * \u017fun-fr\u0131").toOption.bind (fun s => some s.text) =
      some "0 0 9 ? * SUN-FRI")
  exact ⟨s, hs, Option.some.inj htext, hzones, roundTrip_of_read hs hzones rfl⟩

end Schedule

end CronSchedule
