import TypeComments.Docstring.Format

/-!
# Entries put together

A docstring documents its parameters without repeats: these are among those that were read (`castParams_subset`), every
name is there (`exists_mem_castParams`), and parameters of different names come through as they are
(`castParams_of_nodup`). The values it returns or yields are one result. Where named results and yields are allowed, the
result is found without a fault (`castResult_of_allowed`).
-/

namespace TypeComments.Docstring

/-! ### Parameters -/

section
variable {p : Param} {ps qs : List Param}

theorem putParam_of_not_mem {p : Param} {ps : List Param} (h : p.name ∉ ps.map (·.name)) :
    putParam p ps = ps ++ [p] := by
  induction ps with
  | nil => rfl
  | cons q ps ih =>
    rw [List.map_cons, List.mem_cons, not_or] at h
    rw [putParam, if_neg (by simpa using Ne.symm h.1), ih h.2, List.cons_append]

theorem putParam_subset (p : Param) (qs : List Param) : putParam p qs ⊆ p :: qs := by
  induction qs with
  | nil => exact fun _ h => h
  | cons r rest ih =>
    simp only [putParam]
    split
    · exact List.cons_subset_cons p (List.subset_cons_self r rest)
    · rintro x (_ | ⟨_, hx⟩)
      · simp
      · rcases List.mem_cons.1 (ih hx) with rfl | hx
        · exact .head _
        · exact .tail _ (.tail _ hx)

theorem mem_putParam (p : Param) (qs : List Param) : p ∈ putParam p qs := by
  induction qs with
  | nil => exact .head _
  | cons r qs ih =>
    rw [putParam]
    split
    · exact .head _
    · exact .tail _ ih

theorem exists_mem_putParam {q : Param} (p : Param) (hq : q ∈ qs) : ∃ q' ∈ putParam p qs, q'.name = q.name := by
  induction qs with
  | nil => cases hq
  | cons r qs ih =>
    rw [putParam]
    rcases List.mem_cons.1 hq with rfl | hq
    · split
      · rename_i hsame
        exact ⟨p, .head _, (beq_iff_eq.1 hsame).symm⟩
      · exact ⟨q, .head _, rfl⟩
    · split
      · exact ⟨q, .tail _ hq, rfl⟩
      · obtain ⟨q', hq', hname⟩ := ih hq
        exact ⟨q', .tail _ hq', hname⟩

theorem castParams_subset (ps : List Param) : castParams ps ⊆ ps := by
  have hfold (ps qs : List Param) : ps.foldl (fun ps p => putParam p ps) qs ⊆ qs ++ ps := by
    induction ps generalizing qs with
    | nil => simp
    | cons q ps ih =>
      intro x hx
      rcases List.mem_append.1 (ih _ hx) with hx | hx
      · rcases List.mem_cons.1 (putParam_subset q qs hx) with rfl | hx
        · exact List.mem_append_right _ (.head _)
        · exact List.mem_append_left _ hx
      · exact List.mem_append_right _ (.tail _ hx)
  exact hfold ps []

theorem exists_mem_castParams (hp : p ∈ ps) : ∃ q ∈ castParams ps, q.name = p.name := by
  -- a name stays in the list from the step that puts it there on
  have hfold (ps qs : List Param) : ∀ q, q ∈ qs ∨ q ∈ ps →
      ∃ q' ∈ ps.foldl (fun ps p => putParam p ps) qs, q'.name = q.name := by
    induction ps generalizing qs with
    | nil => exact fun q hq => ⟨q, hq.resolve_right List.not_mem_nil, rfl⟩
    | cons p ps ih =>
      rintro q (hq | hq)
      · obtain ⟨r, hr, hname⟩ := exists_mem_putParam p hq
        obtain ⟨q', hq', hname'⟩ := ih (putParam p qs) r (.inl hr)
        exact ⟨q', hq', hname'.trans hname⟩
      · rcases List.mem_cons.1 hq with rfl | hq
        · exact ih _ q (.inl (mem_putParam q qs))
        · exact ih _ q (.inr hq)
  exact hfold ps [] p (.inr hp)

theorem mem_castParams (hp : p ∈ ps) (hsole : ∀ q ∈ ps, q.name = p.name → q = p) : p ∈ castParams ps := by
  obtain ⟨q, hq, hname⟩ := exists_mem_castParams hp
  rwa [hsole q (castParams_subset ps hq) hname] at hq

theorem castParams_of_nodup {ps : List Param} (h : (ps.map (·.name)).Nodup) : castParams ps = ps := by
  -- the parameters put in so far come first, and none of them is named again
  have hfold (acc : List Param) (hacc : ((acc ++ ps).map (·.name)).Nodup) :
      ps.foldl (fun ps p => putParam p ps) acc = acc ++ ps := by
    clear h
    induction ps generalizing acc with
    | nil => simp
    | cons p ps ih =>
      have hp : p.name ∉ acc.map (·.name) := by
        rw [List.map_append, List.nodup_append] at hacc
        exact fun hmem => hacc.2.2 _ hmem _ (by simp) rfl
      rw [List.foldl_cons, putParam_of_not_mem hp, ih _ (by simpa using hacc), List.append_assoc,
        List.singleton_append]
  exact hfold [] h

end

/-! ### The result -/

def resultType : List (List Char) → List Char
  | [t] => t
  | ts => "Tuple[".toList ++ List.intercalate ", ".toList ts ++ "]".toList

theorem resultType_of_two_le {ts : List (List Char)} (h : 2 ≤ ts.length) :
    resultType ts = "Tuple[".toList ++ List.intercalate ", ".toList ts ++ "]".toList := by
  match ts, h with
  | t :: u :: ts, _ => rfl

theorem castReturns_eq {options : Options} {es : List Entry} {ts : List (List Char)} (hne : ts ≠ [])
    (h : es.map (·.type) = ts.map some) (hnamed : 2 ≤ ts.length → options.allowNamedResults = true) :
    ∃ e, castReturns options es = pure (some e) ∧ e.type = some (resultType ts) := by
  match es, ts with
  | _, [] => exact absurd rfl hne
  | [], t :: ts => cases h
  | [e], [t] => exact ⟨e, rfl, (List.cons.inj h).1⟩
  | [e], t :: u :: ts => simp at h
  | e :: f :: es, [t] => simp at h
  | e :: f :: es, t :: u :: ts =>
    have htypes : (e :: f :: es).filterMap (·.type) = t :: u :: ts := by
      calc (e :: f :: es).filterMap (·.type)
        _ = ((e :: f :: es).map (·.type)).filterMap id := by rw [List.filterMap_map]; rfl
        _ = ((t :: u :: ts).map some).filterMap id := by rw [h]
        _ = t :: u :: ts := by simp
    refine ⟨⟨some (tupleType (e :: f :: es)), e.line⟩, ?_, ?_⟩
    · simp [castReturns, hnamed (by simp)]
    · exact congrArg (fun types => some ("Tuple[".toList ++ List.intercalate ", ".toList types ++ "]".toList)) htypes

section
variable {options : Options} (hnamed : options.allowNamedResults = true) (hyields : options.allowYields = true)
include hnamed

theorem castReturns_of_allowed (es : List Entry) : ∃ result, castReturns options es = pure result := by
  unfold castReturns
  rcases es with _ | ⟨e, _ | ⟨e', es⟩⟩
  · exact ⟨_, rfl⟩
  · exact ⟨_, rfl⟩
  · exact ⟨_, if_pos hnamed⟩

include hyields

theorem castYields_of_allowed (es : List Entry) : ∃ result, castYields options es = pure result := by
  cases es with
  | nil => exact ⟨_, rfl⟩
  | cons e es =>
    obtain ⟨result, hresult⟩ := castReturns_of_allowed hnamed (e :: es)
    rw [castYields, hresult, if_pos hyields]
    cases result with
    | none => exact ⟨none, rfl⟩
    | some result => exact ⟨_, rfl⟩

theorem castResult_of_allowed {returns : List Entry} (h : ∀ e ∈ returns, e.line.isSome = true) (yields : List Entry)
    (notices : List Notice) : ∃ result notices',
      (castResult options returns yields).run.run notices = (.ok result, notices') := by
  obtain ⟨returned, hreturned⟩ := castReturns_of_allowed hnamed returns
  obtain ⟨yielded, hyielded⟩ := castYields_of_allowed hnamed hyields yields
  unfold castResult
  cases yields with
  | nil =>
    rw [hreturned]
    cases returns <;> exact ⟨returned, notices, rfl⟩
  | cons y yields =>
    rw [hyielded]
    cases returns with
    | nil => exact ⟨yielded, notices, rfl⟩
    | cons e returns =>
      obtain ⟨n, hn⟩ := Option.isSome_iff_exists.1 (h e (.head _))
      refine ⟨yielded, notices ++ [⟨.warning, n, bothText⟩], ?_⟩
      simp only [hn, Parse.notify]
      rfl

end

end TypeComments.Docstring
