-- Dates and timestamps read back from their texts: years before the first and after the 9999th,
-- fractions of every width, and leap seconds.
import SqlTree.Calendar.Printer
import SqlTree.Calendar.Reader
import SqlTree.Proofs.SignedNumerals

namespace SqlTree

open Text

/-! ## Days and times -/

theorem daysInMonth_le (year : Int) (month : Nat) : daysInMonth year month ≤ 31 := by
  unfold daysInMonth
  split
  · split <;> omega
  · split <;> omega

theorem Date.of?_self (d : Date) : Date.of? d.year d.month d.day = some d := by
  simp [Date.of?, d.valid]

theorem Timestamp.of?_self (t : Timestamp) :
    Timestamp.of? t.date t.hour t.minute t.second t.nanos = some t := by
  simp [Timestamp.of?, t.valid]

namespace Calendar

/-! ## Numbers -/

/-- A numeral is read whole if it has as many digits as may be read, or no digit follows it. -/
theorem number?_append {most : Nat} {ds rest : List Char} (hds : IsNumeral ds)
    (hlength : ds.length ≤ most)
    (hend : ds.length = most ∨ ∀ c ∈ rest.head?, isDigit c = false) :
    number? most (ds ++ rest) = some (numeralValue ds, rest) := by
  have hrest : (rest.take (most - ds.length)).takeWhile isDigit = [] := by
    rcases hend with hmost | hend
    · simp [hmost]
    · cases rest with
      | nil => simp
      | cons c rest =>
        have hc : isDigit c = false := hend c rfl
        cases most - ds.length <;> simp [hc]
  have hread : ((ds ++ rest).take most).takeWhile isDigit = ds := by
    rw [List.take_append, List.take_of_length_le hlength, List.takeWhile_append_of_pos hds.2, hrest,
      List.append_nil]
  unfold number?
  simp [hread, hds.1]

/-- Two digits are read whatever follows them. -/
theorem field?_padded {n : Nat} (h : n < 100) (rest : List Char) :
    field? (padded 2 n ++ rest) = some (n, rest) := by
  have hds := isNumeral_padded 2 n
  have hlength : (padded 2 n).length = 2 := length_padded (by decide) h
  have hfirst : ∀ c ∈ (padded 2 n ++ rest).head?, isBlank c = false := by
    rw [List.head?_append_of_ne_nil _ hds.1]
    intro c hc
    exact not_blank_of_isDigit (hds.2 c (List.mem_of_mem_head? hc))
  unfold field?
  rw [dropBlanks_of_first hfirst, number?_append hds (by omega) (.inl hlength),
    numeralValue_padded]

theorem expect?_cons (c : Char) (cs : List Char) : expect? c (c :: cs) = some cs := by
  simp [expect?]

/-! ## Dates -/

theorem year?_minus {n : Nat} {cs rest : List Char} (h : number? cs.length cs = some (n, rest)) :
    year? ('-' :: cs) = some (-(n : Int), rest) := by
  have hread : year? ('-' :: cs) = (number? cs.length cs).map fun p => (-(p.1 : Int), p.2) := rfl
  rw [hread, h, Option.map_some]

theorem year?_plus {n : Nat} {cs rest : List Char} (h : number? cs.length cs = some (n, rest)) :
    year? ('+' :: cs) = some ((n : Int), rest) := by
  have hread : year? ('+' :: cs) = (number? cs.length cs).map fun p => ((p.1 : Int), p.2) := rfl
  rw [hread, h, Option.map_some]

theorem year?_digits {n : Nat} {cs rest : List Char} (hfirst : ∀ c ∈ cs.head?, isDigit c = true)
    (h : number? 4 cs = some (n, rest)) : year? cs = some ((n : Int), rest) := by
  unfold year?
  rw [dropBlanks_of_first fun c hc => not_blank_of_isDigit (hfirst c hc)]
  split
  · exact absurd (hfirst '-' rfl) (by decide)
  · exact absurd (hfirst '+' rfl) (by decide)
  · rw [h, Option.map_some]

/-- A year is read with its sign if it has one, and as four digits otherwise. -/
theorem year?_yearChars (year : Int) {rest : List Char}
    (hrest : ∀ c ∈ rest.head?, isDigit c = false) :
    year? (yearChars year ++ rest) = some (year, rest) := by
  have hds := isNumeral_padded 4 year.natAbs
  have hsigned : number? (padded 4 year.natAbs ++ rest).length (padded 4 year.natAbs ++ rest)
      = some (year.natAbs, rest) := by
    rw [number?_append hds (by simp) (.inr hrest), numeralValue_padded]
  unfold yearChars
  by_cases hneg : year < 0
  · have habs : -(year.natAbs : Int) = year := by omega
    rw [if_pos hneg, List.cons_append, year?_minus hsigned, habs]
  · have habs : (year.natAbs : Int) = year := by omega
    by_cases hlong : year > 9999
    · rw [if_neg hneg, if_pos hlong, List.cons_append, year?_plus hsigned, habs]
    · have hlength : (padded 4 year.natAbs).length = 4 := length_padded (by decide) (by omega)
      have hfour : number? 4 (padded 4 year.natAbs ++ rest) = some (year.natAbs, rest) := by
        rw [number?_append hds hlength.le (.inl hlength), numeralValue_padded]
      have hfirst : ∀ c ∈ (padded 4 year.natAbs ++ rest).head?, isDigit c = true := by
        rw [List.head?_append_of_ne_nil _ hds.1]
        exact fun c hc => hds.2 c (List.mem_of_mem_head? hc)
      rw [if_neg hneg, if_neg hlong, year?_digits hfirst hfour, habs]

/-- A date is read whatever follows it. -/
theorem date?_chars (d : Date) (rest : List Char) : date? (d.chars ++ rest) = some (d, rest) := by
  obtain ⟨-, -, -, hmonth, -, hday⟩ := d.valid
  have hlast := daysInMonth_le d.year d.month
  have hyear (cs : List Char) : year? (yearChars d.year ++ '-' :: cs) = some (d.year, '-' :: cs) :=
    year?_yearChars d.year (by simp; decide)
  have hmonth (cs : List Char) : field? (padded 2 d.month ++ cs) = some (d.month, cs) :=
    field?_padded (by omega) cs
  have hday (cs : List Char) : field? (padded 2 d.day ++ cs) = some (d.day, cs) :=
    field?_padded (by omega) cs
  simp only [Date.chars, List.append_assoc, List.cons_append]
  simp [date?, hyear, expect?_cons, hmonth, hday, Date.of?_self]

/-! ## Times -/

theorem fraction?_padded {width : Nat} (n : Nat) (hpos : 0 < width) (hwidth : width ≤ 9)
    (h : n < 10 ^ width) :
    fraction? ('.' :: padded width n) = some (n * 10 ^ (9 - width), []) := by
  have hlength := length_padded hpos h
  have hread := @number?_append 9 _ [] (isNumeral_padded width n) (hlength.trans_le hwidth)
    (.inr (by simp))
  rw [List.append_nil, numeralValue_padded] at hread
  simp [fraction?, hread, hlength]

/-- Nanoseconds are read from any of the widths in which they are written. -/
theorem fraction?_fractionChars {nanos : Nat} (h : nanos < 1000000000) :
    fraction? (fractionChars nanos) = some (nanos, []) := by
  unfold fractionChars
  by_cases hnone : nanos = 0
  · simp [hnone, fraction?]
  by_cases hmilli : nanos % 1000000 = 0
  · have hread := @fraction?_padded 3 (nanos / 1000000) (by omega) (by omega) (by omega)
    have hwhole : nanos / 1000000 * 10 ^ (9 - 3) = nanos := by omega
    rw [hwhole] at hread
    simp [hnone, hmilli, hread]
  by_cases hmicro : nanos % 1000 = 0
  · have hread := @fraction?_padded 6 (nanos / 1000) (by omega) (by omega) (by omega)
    have hwhole : nanos / 1000 * 10 ^ (9 - 6) = nanos := by omega
    rw [hwhole] at hread
    simp [hnone, hmilli, hmicro, hread]
  · have hread := @fraction?_padded 9 nanos (by omega) (by omega) (by omega)
    have hwhole : nanos * 10 ^ (9 - 9) = nanos := by omega
    rw [hwhole] at hread
    simp [hnone, hmilli, hmicro, hread]

theorem time?_fields {date : Date} {hour minute second nanos : Nat} {fraction : List Char}
    {t : Timestamp} (hhour : hour < 100) (hminute : minute < 100) (hsecond : second < 100)
    (hfraction : fraction? fraction = some (nanos, []))
    (ht : (if second == 60 then Timestamp.of? date hour minute 59 (nanos + 1000000000)
      else Timestamp.of? date hour minute second nanos) = some t) :
    time? date (padded 2 hour ++ ':' :: (padded 2 minute ++ ':' :: (padded 2 second ++ fraction)))
      = some (t, []) := by
  simp only [time?, field?_padded hhour, field?_padded hminute, field?_padded hsecond,
    expect?_cons, hfraction, Option.bind_eq_bind, Option.bind_some]
  split at ht
  · rename_i hleap
    rw [if_pos hleap, ht, Option.bind_some]
  · rename_i hleap
    rw [if_neg hleap, ht, Option.bind_some]

/-- A time is read on its date; second 60 is taken for the leap second that it shows. -/
theorem time?_timeChars (t : Timestamp) : time? t.date t.timeChars = some (t, []) := by
  obtain ⟨hhour, hminute, hsecond, hnanos⟩ := t.valid
  have hself := Timestamp.of?_self t
  unfold Timestamp.timeChars
  by_cases hleap : t.nanos ≥ 1000000000
  · have h59 : t.second = 59 := by omega
    have hback : t.nanos - 1000000000 + 1000000000 = t.nanos := by omega
    simp only [hleap, if_true]
    apply time?_fields (by omega) (by omega) (by omega) (fraction?_fractionChars (by omega))
    rw [hback, h59, if_pos (by decide), ← h59]
    exact hself
  · have hne : ¬ (t.second == 60) = true := by rw [beq_iff_eq]; omega
    simp only [hleap, if_false]
    apply time?_fields (by omega) (by omega) (by omega) (fraction?_fractionChars (by omega))
    rw [if_neg hne]
    exact hself

end Calendar

/-! ## Whole texts -/

theorem not_blank_of_mem_padded (width n : Nat) : ∀ c ∈ padded width n, isBlank c = false :=
  fun c hc => not_blank_of_isDigit ((isNumeral_padded width n).2 c hc)

theorem not_blank_of_mem_yearChars (year : Int) : ∀ c ∈ yearChars year, isBlank c = false := by
  have hds := not_blank_of_mem_padded 4 year.natAbs
  unfold yearChars
  split
  · exact List.forall_mem_cons.mpr ⟨by decide, hds⟩
  · split
    · exact List.forall_mem_cons.mpr ⟨by decide, hds⟩
    · exact hds

theorem not_blank_of_mem_fractionChars (nanos : Nat) :
    ∀ c ∈ fractionChars nanos, isBlank c = false := by
  have hpoint (width n : Nat) : ∀ c ∈ '.' :: padded width n, isBlank c = false :=
    List.forall_mem_cons.mpr ⟨by decide, not_blank_of_mem_padded width n⟩
  unfold fractionChars
  split
  · simp
  · split
    · exact hpoint 3 _
    · split
      · exact hpoint 6 _
      · exact hpoint 9 _

theorem Date.not_blank_of_mem_chars (d : Date) : ∀ c ∈ d.chars, isBlank c = false := by
  simp only [Date.chars, List.forall_mem_append, List.forall_mem_cons]
  exact ⟨not_blank_of_mem_yearChars d.year, by decide, not_blank_of_mem_padded 2 d.month,
    by decide, not_blank_of_mem_padded 2 d.day⟩

theorem Date.chars_ne_nil (d : Date) : d.chars ≠ [] := by
  simp [Date.chars]

theorem Timestamp.not_blank_of_mem_timeChars (t : Timestamp) :
    ∀ c ∈ t.timeChars, isBlank c = false := by
  simp only [Timestamp.timeChars, List.forall_mem_append, List.forall_mem_cons]
  exact ⟨not_blank_of_mem_padded 2 t.hour, by decide, not_blank_of_mem_padded 2 t.minute,
    by decide, not_blank_of_mem_padded 2 _, not_blank_of_mem_fractionChars _⟩

theorem Timestamp.timeChars_ne_nil (t : Timestamp) : t.timeChars ≠ [] := by
  simp [Timestamp.timeChars]

/-- The text of a date is read as that date. -/
theorem Date.read?_text (d : Date) : Date.read? (trimChars d.text.toList) = some d := by
  have htext : d.text.toList = d.chars := by simp [Date.text]
  have hdate := Calendar.date?_chars d []
  rw [List.append_nil] at hdate
  rw [htext, trimChars_of_isTrimmed (isTrimmed_of_not_blank d.not_blank_of_mem_chars), Date.read?,
    hdate]
  rfl

/-- The white space inside the text of a timestamp is not at its ends. -/
theorem Timestamp.isTrimmed_chars (t : Timestamp) (separator : Char) :
    IsTrimmed (t.charsWith separator) := by
  constructor
  · unfold charsWith
    rw [List.head?_append_of_ne_nil _ t.date.chars_ne_nil]
    exact fun c hc => t.date.not_blank_of_mem_chars c (List.mem_of_mem_head? hc)
  · unfold charsWith
    rw [List.getLast?_append_of_ne_nil _ (by simp), List.getLast?_cons_of_ne_nil t.timeChars_ne_nil]
    exact fun c hc => t.not_blank_of_mem_timeChars c (List.mem_of_mem_getLast? hc)

/-- The text of a timestamp is read as that timestamp. -/
theorem Timestamp.read?_text (t : Timestamp) :
    Timestamp.read? (trimChars t.text.toList) = some t := by
  have htext : t.text.toList = t.charsWith ' ' := by simp [Timestamp.text]
  have hblank : dropBlanks (' ' :: t.timeChars) = t.timeChars := by
    have hfirst : ∀ c ∈ t.timeChars.head?, isBlank c = false :=
      fun c hc => t.not_blank_of_mem_timeChars c (List.mem_of_mem_head? hc)
    rw [← List.singleton_append, dropBlanks_append (by simp; decide), dropBlanks_of_first hfirst]
  have hspaced : Calendar.spacedTimestamp? (t.charsWith ' ') = some t := by
    simp [Calendar.spacedTimestamp?, charsWith, Calendar.date?_chars, hblank,
      Calendar.time?_timeChars, Calendar.whole?]
  rw [htext, trimChars_of_isTrimmed (t.isTrimmed_chars ' '), Timestamp.read?, hspaced]
  rfl

end SqlTree
