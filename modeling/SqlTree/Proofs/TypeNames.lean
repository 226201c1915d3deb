-- The names of column types: what is left of a name without its array suffixes is its base name,
-- and an unknown type is reported by it.
import SqlTree.Cast.TypeMap

namespace SqlTree.TypeMap

/-! ## Base names -/

/-- What may follow a base name: an array suffix or a blank. -/
def IsTrailer (cs : List Char) : Prop :=
  cs = ['[', ']'] ∨ ∃ c, Text.isBlank c = true ∧ cs = [c]

/-- The base name of a type: the normal form of the type's name is the base name with nothing but
array suffixes and blanks after it, and the base name itself ends in neither. -/
structure IsBaseName (name base : String) : Prop where
  trailers : ∃ ts : List (List Char), (∀ t ∈ ts, IsTrailer t) ∧
    (normalize name).toList = base.toList ++ ts.flatten
  no_suffix : ¬ ['[', ']'] <:+ base.toList
  no_blank : ∀ c, [c] <:+ base.toList → Text.isBlank c = false

theorem isTrailer_blank {c : Char} (h : Text.isBlank c = true) : IsTrailer [c] :=
  .inr ⟨c, h, rfl⟩

/-- Peeling takes off trailers, as long as there is one. -/
theorem peelSuffixes_trailers (count : Nat) (cs : List Char) :
    (∃ ts : List (List Char), (∀ t ∈ ts, IsTrailer t) ∧
      cs.reverse = (peelSuffixes count cs).2.reverse ++ ts.flatten) ∧
    ¬ [']', '['] <+: (peelSuffixes count cs).2 ∧
    ∀ c, [c] <+: (peelSuffixes count cs).2 → Text.isBlank c = false := by
  fun_induction peelSuffixes count cs with
  | case1 count => exact ⟨⟨[], by simp, rfl⟩, by simp, by simp⟩
  | case2 count c hblank =>
    refine ⟨⟨[[c]], ?_, rfl⟩, by simp, by simp⟩
    simpa using isTrailer_blank hblank
  | case3 count c hblank =>
    refine ⟨⟨[], by simp, rfl⟩, by simp, ?_⟩
    rintro x ⟨tail, htail⟩
    cases htail
    simpa using hblank
  | case4 count c d rest hblank ih =>
    obtain ⟨⟨ts, hts, hrest⟩, hend⟩ := ih
    refine ⟨⟨ts ++ [[c]], ?_, ?_⟩, hend⟩
    · simp only [List.forall_mem_append, List.forall_mem_singleton]
      exact ⟨hts, isTrailer_blank hblank⟩
    · rw [List.reverse_cons, hrest, List.flatten_append, List.append_assoc]
      rfl
  | case5 count c d rest hblank hsuffix ih =>
    obtain ⟨⟨ts, hts, hrest⟩, hend⟩ := ih
    obtain ⟨rfl, rfl⟩ : c = ']' ∧ d = '[' := by simpa using hsuffix
    refine ⟨⟨ts ++ [['[', ']']], ?_, ?_⟩, hend⟩
    · simp only [List.forall_mem_append, List.forall_mem_singleton]
      exact ⟨hts, .inl rfl⟩
    · rw [List.reverse_cons, List.reverse_cons, hrest, List.flatten_append]
      simp
  | case6 count c d rest hblank hsuffix =>
    refine ⟨⟨[], by simp, by simp⟩, ?_, ?_⟩
    · rintro ⟨inner, hinner⟩
      cases hinner
      exact hsuffix rfl
    · rintro x ⟨tail, htail⟩
      cases htail
      simpa using hblank

theorem isBaseName_splitSuffixes (name : String) :
    IsBaseName name (splitSuffixes (normalize name)).2 := by
  obtain ⟨⟨ts, hts, hsplit⟩, hsuffix, hblank⟩ :=
    peelSuffixes_trailers 0 (normalize name).toList.reverse
  have hbase : (splitSuffixes (normalize name)).2.toList =
      (peelSuffixes 0 (normalize name).toList.reverse).2.reverse := by
    simp [splitSuffixes]
  refine ⟨⟨ts, hts, ?_⟩, ?_, ?_⟩
  · rw [hbase, ← hsplit, List.reverse_reverse]
  · rw [hbase]
    exact fun h => hsuffix (List.reverse_suffix.mp h)
  · intro c h
    rw [hbase] at h
    exact hblank c (List.reverse_suffix.mp h)

/-- A look-up fails only if the base name is unknown, and says so. -/
theorem lookup_eq_error {m : TypeMap} {name : String} {e : CastError}
    (h : m.lookup name = .error e) :
    ∃ base, IsBaseName name base ∧ e = .unknownType base ∧ ∀ entry ∈ m.entries, entry.1 ≠ base := by
  refine ⟨(splitSuffixes (normalize name)).2, isBaseName_splitSuffixes name, ?_⟩
  unfold lookup at h
  cases hfind : m.entries.find? (·.1 == (splitSuffixes (normalize name)).2) with
  | some entry => simp [hfind] at h
  | none =>
    simp only [hfind, Except.error.injEq] at h
    refine ⟨h.symm, ?_⟩
    intro entry hentry
    simpa using List.find?_eq_none.mp hfind entry hentry

end SqlTree.TypeMap
