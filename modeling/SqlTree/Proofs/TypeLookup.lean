-- Column types found by their names. Array suffixes on a name make arrays of what the name stands
-- for, white space among them does not matter, and a name without suffixes stands for the caster
-- that was given to it last.
import SqlTree.Proofs.Lowercase
import SqlTree.Proofs.TypeNames

namespace SqlTree.TypeMap

/-! ## Normal forms -/

theorem toList_normalize (name : String) :
    (normalize name).toList = Text.lowerAfter [] (Text.trimChars name.toList) := by
  simp [normalize, Text.lowercase, Text.trim]

theorem isTrimmed_normalize (name : String) : Text.IsTrimmed (normalize name).toList := by
  rw [toList_normalize]
  exact Text.isTrimmed_lowerAfter (Text.isTrimmed_trimChars _) []

/-- A normal form is its own normal form. -/
theorem normalize_normalize (name : String) : normalize (normalize name) = normalize name := by
  have hsettled : ∀ c ∈ (normalize name).toList, Text.IsSettled c := by
    intro c hc
    rw [toList_normalize] at hc
    exact Text.isSettled_of_mem_lowerAfter hc
  apply String.toList_inj.mp
  rw [toList_normalize (normalize name), Text.trimChars_of_isTrimmed (isTrimmed_normalize name)]
  exact Text.lowerAfter_of_settled hsettled []

/-! ## Array suffixes -/

/-- A text of so many array suffixes, with any white space around each of them. -/
inductive IsSuffixes : Nat → List Char → Prop
  | nil : IsSuffixes 0 []
  | blank {k : Nat} {c : Char} {cs : List Char} (blank : Text.isBlank c = true)
      (rest : IsSuffixes k cs) : IsSuffixes k (c :: cs)
  | array {k : Nat} {cs : List Char} (rest : IsSuffixes k cs) :
      IsSuffixes (k + 1) ('[' :: ']' :: cs)

theorem isSuffixes_blanks_append {blanks cs : List Char} {k : Nat}
    (hblanks : ∀ c ∈ blanks, Text.isBlank c = true) (hcs : IsSuffixes k cs) :
    IsSuffixes k (blanks ++ cs) := by
  induction blanks with
  | nil => exact hcs
  | cons c blanks ih =>
    obtain ⟨hc, hrest⟩ := List.forall_mem_cons.mp hblanks
    exact .blank hc (ih hrest)

theorem isSuffixes_dropBlanks {k : Nat} {cs : List Char} (h : IsSuffixes k cs) :
    IsSuffixes k (Text.dropBlanks cs) := by
  induction h with
  | nil => exact .nil
  | blank hc rest ih => simpa [Text.dropBlanks, hc] using ih
  | array rest ih => exact .array rest

theorem isBreak_of_isSuffixes {k : Nat} {cs : List Char} (h : IsSuffixes k cs) :
    ∀ c ∈ cs, Text.IsBreak c := by
  induction h with
  | nil => simp
  | blank hc rest ih => exact List.forall_mem_cons.mpr ⟨Text.isBreak_of_blank hc, ih⟩
  | array rest ih =>
    exact List.forall_mem_cons.mpr
      ⟨Text.isBreak_open, List.forall_mem_cons.mpr ⟨Text.isBreak_close, ih⟩⟩

theorem peelSuffixes_blank {c : Char} (h : Text.isBlank c = true) (count : Nat) (cs : List Char) :
    peelSuffixes count (c :: cs) = peelSuffixes count cs := by
  cases cs with
  | nil => simp [peelSuffixes, h]
  | cons d cs => rw [peelSuffixes, if_pos h]

theorem peelSuffixes_array (count : Nat) (cs : List Char) :
    peelSuffixes count (']' :: '[' :: cs) = peelSuffixes (count + 1) cs := by
  rw [peelSuffixes, if_neg (by decide), if_pos (by decide)]

/-- Suffixes at the end of a name are all taken off and counted. -/
theorem peelSuffixes_append {k : Nat} {cs : List Char} (h : IsSuffixes k cs) (count : Nat)
    (base : List Char) :
    peelSuffixes count (base ++ cs).reverse = peelSuffixes (count + k) base.reverse := by
  induction h generalizing base with
  | nil => rw [List.append_nil, Nat.add_zero]
  | @blank k c cs hc rest ih =>
    rw [List.append_cons, ih, List.reverse_append]
    exact peelSuffixes_blank hc (count + k) base.reverse
  | @array k cs rest ih =>
    rw [List.append_cons, List.append_cons, ih, List.append_assoc, List.reverse_append]
    exact peelSuffixes_array (count + k) base.reverse

/-- The suffixes that were counted before only add to the count. -/
theorem peelSuffixes_add (count more : Nat) (cs : List Char) :
    peelSuffixes (count + more) cs =
      ((peelSuffixes count cs).1 + more, (peelSuffixes count cs).2) := by
  fun_induction peelSuffixes count cs with
  | case1 count => rfl
  | case2 count c hblank => rw [peelSuffixes, if_pos hblank]
  | case3 count c hblank => rw [peelSuffixes, if_neg hblank]
  | case4 count c d rest hblank ih => rw [peelSuffixes, if_pos hblank, ih]
  | case5 count c d rest hblank hsuffix ih =>
    rw [peelSuffixes, if_neg hblank, if_pos hsuffix, Nat.add_right_comm, ih]
  | case6 count c d rest hblank hsuffix => rw [peelSuffixes, if_neg hblank, if_neg hsuffix]

theorem peelSuffixes_of_base {cs : List Char} (hblank : ∀ c ∈ cs.head?, Text.isBlank c = false)
    (hsuffix : ¬ [']', '['] <+: cs) (count : Nat) : peelSuffixes count cs = (count, cs) := by
  match cs with
  | [] => rfl
  | [c] => rw [peelSuffixes, if_neg (by simp [hblank c rfl])]
  | c :: d :: rest =>
    have hne : ¬ (c == ']' && d == '[') = true := by
      intro heq
      obtain ⟨rfl, rfl⟩ : c = ']' ∧ d = '[' := by simpa using heq
      exact hsuffix ⟨rest, rfl⟩
    rw [peelSuffixes, if_neg (by simp [hblank c rfl]), if_neg hne]

/-- Before the suffixes a name is left with its own trimmed form, and white space. -/
theorem dropBlanks_append_suffixes (name : List Char) {k : Nat} {cs : List Char}
    (h : IsSuffixes k cs) :
    ∃ rest, IsSuffixes k rest ∧ Text.dropBlanks (name ++ cs) = Text.trimChars name ++ rest := by
  obtain ⟨after, hafter, hblank⟩ := Text.exists_dropBlanks_eq name
  by_cases hnil : Text.dropBlanks name = []
  · -- only white space stands before the suffixes: what comes before the first is dropped too
    refine ⟨Text.dropBlanks cs, isSuffixes_dropBlanks h, ?_⟩
    have htrim : Text.trimChars name = [] := (List.append_eq_nil_iff.mp (hafter ▸ hnil)).1
    rw [htrim, List.nil_append]
    unfold Text.dropBlanks at hnil ⊢
    rw [List.dropWhile_append, if_pos (by simp [hnil])]
  · refine ⟨after ++ cs, isSuffixes_blanks_append hblank h, ?_⟩
    rw [← List.append_assoc, ← hafter]
    unfold Text.dropBlanks at hnil ⊢
    rw [List.dropWhile_append, if_neg (by simpa using hnil)]

/-- The suffixes behind a name are counted as if the name was normalized without them. -/
theorem peelSuffixes_normalize (name : String) {k : Nat} {cs : List Char} (h : IsSuffixes k cs)
    (count : Nat) :
    peelSuffixes count (normalize (name ++ String.ofList cs)).toList.reverse =
      peelSuffixes (count + k) (normalize name).toList.reverse := by
  obtain ⟨rest, hrest, hdrop⟩ := dropBlanks_append_suffixes name.toList h
  obtain ⟨after, hafter, hblank⟩ := Text.exists_dropBlanks_eq (name.toList ++ cs)
  have hblanks : IsSuffixes 0 after := by
    simpa using isSuffixes_blanks_append hblank .nil
  have hlower :
      Text.lowerAfter [] (Text.trimChars (name.toList ++ cs)) ++ after =
        Text.lowerAfter [] (Text.trimChars name.toList) ++ rest := by
    rw [← Text.lowerAfter_append (isBreak_of_isSuffixes hblanks), ← hafter, hdrop,
      Text.lowerAfter_append (isBreak_of_isSuffixes hrest)]
  rw [toList_normalize, toList_normalize, String.toList_append, String.toList_ofList]
  calc peelSuffixes count (Text.lowerAfter [] (Text.trimChars (name.toList ++ cs))).reverse
    _ = peelSuffixes count
          (Text.lowerAfter [] (Text.trimChars (name.toList ++ cs)) ++ after).reverse :=
        (peelSuffixes_append hblanks count _).symm
    _ = peelSuffixes count
          (Text.lowerAfter [] (Text.trimChars name.toList) ++ rest).reverse := by rw [hlower]
    _ = peelSuffixes (count + k) (Text.lowerAfter [] (Text.trimChars name.toList)).reverse :=
        peelSuffixes_append hrest count _

theorem splitSuffixes_normalize (name : String) {k : Nat} {cs : List Char} (h : IsSuffixes k cs) :
    splitSuffixes (normalize (name ++ String.ofList cs)) =
      ((splitSuffixes (normalize name)).1 + k, (splitSuffixes (normalize name)).2) := by
  simp only [splitSuffixes, peelSuffixes_normalize name h, peelSuffixes_add]

theorem splitSuffixes_of_base {name : String} (h : ¬ ['[', ']'] <:+ (normalize name).toList) :
    splitSuffixes (normalize name) = (0, normalize name) := by
  have hpeel : peelSuffixes 0 (normalize name).toList.reverse =
      (0, (normalize name).toList.reverse) := by
    refine peelSuffixes_of_base ?_ ?_ 0
    · rw [List.head?_reverse]
      exact (isTrimmed_normalize name).last
    · exact fun hsuffix => h (List.reverse_prefix.mp hsuffix)
  simp [splitSuffixes, hpeel]

/-! ## Looking up -/

theorem nest_add (j k : Nat) (c : Caster) : nest (j + k) c = nest k (nest j c) := by
  induction k with
  | zero => rfl
  | succ k ih => exact congrArg (Caster.array · ',') ih

theorem sqlType_nest (k : Nat) (c : Caster) :
    (nest k c).sqlType = c.sqlType ++ String.join (List.replicate k "[]") := by
  induction k with
  | zero => simp [nest]
  | succ k ih =>
    rw [nest, Caster.sqlType, ih, List.replicate_succ', String.join_append, String.append_assoc]
    rfl

/-- Suffixes behind a name make an array of what the name stands for. -/
theorem lookup_append (m : TypeMap) (name : String) {k : Nat} {cs : List Char}
    (h : IsSuffixes k cs) :
    m.lookup (name ++ String.ofList cs) = (m.lookup name).map (nest k) := by
  simp only [lookup, splitSuffixes_normalize name h]
  cases m.entries.find? (·.1 == (splitSuffixes (normalize name)).2) with
  | none => rfl
  | some entry => exact congrArg Except.ok (nest_add _ k entry.2)

theorem lookup_of_base (m : TypeMap) {name : String}
    (h : ¬ ['[', ']'] <:+ (normalize name).toList) :
    m.lookup name = match m.entries.find? (·.1 == normalize name) with
      | some (_, c) => .ok c
      | none => .error (.unknownType (normalize name)) := by
  simp only [lookup, splitSuffixes_of_base h]
  rfl

/-- Looking up a name by recursion: a suffix at the end of the normal form is taken off and what is
left is looked up in the same way, its normal form being made anew. -/
inductive Finds (m : TypeMap) : String → Except CastError Caster → Prop
  | element {name element : String} {r : Except CastError Caster}
      (suffix : normalize name = element ++ "[]") (found : Finds m element r) :
      Finds m name (r.map (Caster.array · ','))
  | known {name : String} {entry : String × Caster}
      (base : ¬ ['[', ']'] <:+ (normalize name).toList)
      (found : m.entries.find? (·.1 == normalize name) = some entry) :
      Finds m name (.ok entry.2)
  | unknown {name : String} (base : ¬ ['[', ']'] <:+ (normalize name).toList)
      (missing : m.entries.find? (·.1 == normalize name) = none) :
      Finds m name (.error (.unknownType (normalize name)))

theorem exists_element {name : String} (h : ['[', ']'] <:+ (normalize name).toList) :
    ∃ element, normalize name = element ++ "[]" := by
  obtain ⟨cs, hcs⟩ := h
  refine ⟨String.ofList cs, String.toList_inj.mp ?_⟩
  rw [← hcs, String.toList_append, String.toList_ofList]
  rfl

/-- The suffixes of a name are one more than those of its element. -/
theorem splitSuffixes_element {name element : String} (h : normalize name = element ++ "[]") :
    splitSuffixes (normalize name) =
      ((splitSuffixes (normalize element)).1 + 1, (splitSuffixes (normalize element)).2) := by
  have hsplit := splitSuffixes_normalize element (.array .nil)
  have hsuffix : String.ofList ['[', ']'] = "[]" := by decide
  rwa [hsuffix, ← h, normalize_normalize] at hsplit

theorem lookup_element (m : TypeMap) {name element : String}
    (h : normalize name = element ++ "[]") :
    m.lookup name = (m.lookup element).map (Caster.array · ',') := by
  simp only [lookup, splitSuffixes_element h]
  cases m.entries.find? (·.1 == (splitSuffixes (normalize element)).2) with
  | none => rfl
  | some entry => rfl

/-- The recursion ends for every name: each round takes off one suffix. -/
theorem exists_finds (m : TypeMap) (name : String) : ∃ r, m.Finds name r := by
  by_cases hsuffix : ['[', ']'] <:+ (normalize name).toList
  · obtain ⟨element, helement⟩ := exists_element hsuffix
    have hfewer : (splitSuffixes (normalize element)).1 < (splitSuffixes (normalize name)).1 := by
      rw [splitSuffixes_element helement]
      exact Nat.lt_succ_self _
    obtain ⟨r, hr⟩ := exists_finds m element
    exact ⟨_, .element helement hr⟩
  · cases hfind : m.entries.find? (·.1 == normalize name) with
    | none => exact ⟨_, .unknown hsuffix hfind⟩
    | some entry => exact ⟨_, .known hsuffix hfind⟩
termination_by (splitSuffixes (normalize name)).1

theorem lookup_of_finds {m : TypeMap} {name : String} {r : Except CastError Caster}
    (h : m.Finds name r) : r = m.lookup name := by
  induction h with
  | element suffix found ih => rw [lookup_element m suffix, ih]
  | known base found => rw [lookup_of_base m base, found]
  | unknown base missing => rw [lookup_of_base m base, missing]

/-- The recursion finds what looking up all suffixes at once finds. -/
theorem finds_iff (m : TypeMap) (name : String) (r : Except CastError Caster) :
    m.Finds name r ↔ r = m.lookup name := by
  refine ⟨lookup_of_finds, ?_⟩
  intro hr
  obtain ⟨found, hfound⟩ := exists_finds m name
  rw [hr, ← lookup_of_finds hfound]
  exact hfound

/-! ## Registrations -/

/-- The registrations that the usual names come from. -/
def standardCalls : List (String × Caster) :=
  standardNames.flatMap fun (c, names) => names.map (·, c)

/-- The maps that registering names leads to, from the map without names or the one of the usual
names, with all the registrations in their order. -/
inductive Registered : List (String × Caster) → TypeMap → Prop
  | empty : Registered [] empty
  | postgres : Registered standardCalls postgres
  | register {calls : List (String × Caster)} {m : TypeMap} (before : Registered calls m)
      (name : String) (c : Caster) : Registered (calls ++ [(name, c)]) (m.register name c)

/-- The caster given last to a name with the normal form of this one. -/
def IsLatest (calls : List (String × Caster)) (name : String) (c : Caster) : Prop :=
  ∃ before given after, calls = before ++ (given, c) :: after ∧
    normalize given = normalize name ∧ ∀ call ∈ after, normalize call.1 ≠ normalize name

theorem IsLatest.eq_of_last {calls : List (String × Caster)} {given name : String}
    {c latest : Caster}
    (h : IsLatest (calls ++ [(given, c)]) name latest) (hgiven : normalize given = normalize name) :
    latest = c := by
  obtain ⟨before, other, after, hsplit, -, hafter⟩ := h
  cases after using List.reverseRecOn with
  | nil =>
    have hlast := (List.append_inj' hsplit rfl).2
    cases hlast
    rfl
  | append_singleton after last =>
    rw [← List.cons_append, ← List.append_assoc] at hsplit
    have hlast := (List.append_inj' hsplit rfl).2
    cases hlast
    exact absurd hgiven (hafter (given, c) (by simp))

/-- What a registration leaves in a map. -/
def entryOf (call : String × Caster) : String × Caster := (normalize call.1, call.2)

theorem entries_foldl_register (m : TypeMap) (calls : List (String × Caster)) :
    (calls.foldl (fun m call => m.register call.1 call.2) m).entries =
      (calls.map entryOf).reverse ++ m.entries := by
  induction calls generalizing m with
  | nil => rfl
  | cons call calls ih =>
    rw [List.foldl_cons, ih, List.map_cons, List.reverse_cons, List.append_assoc]
    rfl

theorem postgres_eq :
    postgres = standardCalls.foldl (fun m call => m.register call.1 call.2) empty := by
  simp only [postgres, standardCalls, List.foldl_flatMap, List.foldl_map]

/-- A map holds its registrations, the latest first. -/
theorem Registered.entries {calls : List (String × Caster)} {m : TypeMap} (h : Registered calls m) :
    m.entries = (calls.map entryOf).reverse := by
  induction h with
  | empty => rfl
  | postgres =>
    rw [postgres_eq, entries_foldl_register]
    exact List.append_nil _
  | register before name c ih =>
    rw [TypeMap.register, ih, List.map_append, List.reverse_append]
    rfl

theorem Registered.isLatest {calls : List (String × Caster)} {m : TypeMap} (h : Registered calls m)
    {name : String} {entry : String × Caster}
    (hfind : m.entries.find? (·.1 == normalize name) = some entry) :
    IsLatest calls name entry.2 := by
  obtain ⟨hentry, later, earlier, hsplit, hlater⟩ := List.find?_eq_some_iff_append.mp hfind
  rw [h.entries, ← List.reverse_inj, List.reverse_reverse, List.reverse_append,
    List.reverse_cons, List.append_assoc, List.singleton_append] at hsplit
  obtain ⟨before, rest, rfl, -, hrest⟩ := List.map_eq_append_iff.mp hsplit
  obtain ⟨⟨given, c⟩, after, rfl, rfl, hafter⟩ := List.map_eq_cons_iff.mp hrest
  have hgiven : normalize given = normalize name := by simpa [entryOf] using hentry
  refine ⟨before, given, after, rfl, hgiven, ?_⟩
  intro other hother
  have hmem : entryOf other ∈ later := by
    rw [← List.mem_reverse, ← hafter]
    exact List.mem_map_of_mem hother
  simpa [entryOf] using hlater _ hmem

theorem Registered.unknown {calls : List (String × Caster)} {m : TypeMap} (h : Registered calls m)
    {name : String} (hfind : m.entries.find? (·.1 == normalize name) = none) :
    ∀ call ∈ calls, normalize call.1 ≠ normalize name := by
  intro call hcall
  have hmem : entryOf call ∈ m.entries := by
    rw [h.entries, List.mem_reverse]
    exact List.mem_map_of_mem hcall
  simpa [entryOf] using List.find?_eq_none.mp hfind _ hmem

theorem lookup_register (m : TypeMap) {name other : String} (c : Caster)
    (hbase : ¬ ['[', ']'] <:+ (normalize name).toList)
    (hother : normalize other ≠ normalize name) :
    (m.register other c).lookup name = m.lookup name := by
  rw [lookup_of_base _ hbase, lookup_of_base _ hbase, register, List.find?_cons_of_neg]
  simpa using hother

/-- A name with array suffixes behind it stands for an array, of as many dimensions, of the caster
that was given last to a name with its normal form, and for nothing if there is none. The look-up
is the recursion on the name, which always ends, and other names have no part in it. -/
theorem lookup_finds_the_latest_registration {calls : List (String × Caster)} {m : TypeMap}
    (hm : Registered calls m) {name : String}
    (hbase : ¬ ['[', ']'] <:+ (normalize name).toList) {k : Nat} {suffixes : List Char}
    (hsuffixes : IsSuffixes k suffixes) :
    (∀ r, m.Finds (name ++ String.ofList suffixes) r ↔
      r = m.lookup (name ++ String.ofList suffixes)) ∧
    ((∃ c, IsLatest calls name c ∧
        m.lookup (name ++ String.ofList suffixes) = .ok (nest k c) ∧
        (nest k c).sqlType = c.sqlType ++ String.join (List.replicate k "[]")) ∨
      (∀ call ∈ calls, normalize call.1 ≠ normalize name) ∧
        m.lookup (name ++ String.ofList suffixes) = .error (.unknownType (normalize name))) ∧
    ∀ other c, normalize other ≠ normalize name →
      (m.register other c).lookup (name ++ String.ofList suffixes) =
        m.lookup (name ++ String.ofList suffixes) := by
  refine ⟨finds_iff m _, ?_, ?_⟩
  · rw [lookup_append m name hsuffixes, lookup_of_base m hbase]
    cases hfind : m.entries.find? (·.1 == normalize name) with
    | some entry => exact .inl ⟨entry.2, hm.isLatest hfind, rfl, sqlType_nest k entry.2⟩
    | none => exact .inr ⟨hm.unknown hfind, rfl⟩
  · intro other c hother
    rw [lookup_append _ name hsuffixes, lookup_append _ name hsuffixes,
      lookup_register m c hbase hother]

/-- The capital sigma of the name is a final one before a suffix too, so that the name given last in
lower case is found. -/
theorem lookup_finds_the_latest_registration_of_a_final_sigma :
    ¬ ['[', ']'] <:+ (normalize "ΑΣ").toList ∧
    IsSuffixes 2 [' ', '[', ']', ' ', '[', ']', '\n'] ∧
    ((postgres.register "\tασ " .text).register "ας" .date).lookup
      ("ΑΣ" ++ String.ofList [' ', '[', ']', ' ', '[', ']', '\n']) =
      .ok (.array (.array .date ',') ',') := by
  have hsigma : normalize "ας" = normalize "ΑΣ" := by decide +kernel
  have hbase : ¬ ['[', ']'] <:+ (normalize "ΑΣ").toList := by decide +kernel
  have hsuffixes : IsSuffixes 2 [' ', '[', ']', ' ', '[', ']', '\n'] :=
    .blank rfl (.array (.blank rfl (.array (.blank rfl .nil))))
  have hm := (Registered.postgres.register "\tασ " .text).register "ας" .date
  refine ⟨hbase, hsuffixes, ?_⟩
  obtain ⟨-, hfound, -⟩ := lookup_finds_the_latest_registration hm hbase hsuffixes
  rcases hfound with ⟨c, hlatest, hlookup, -⟩ | ⟨hunknown, -⟩
  · rw [hlookup, hlatest.eq_of_last hsigma]
    rfl
  · exact absurd hsigma (hunknown ("ας", .date) (by simp))

end SqlTree.TypeMap
