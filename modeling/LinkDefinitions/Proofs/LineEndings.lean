import LinkDefinitions.Proofs.Lines
import Mathlib.Data.List.Chain

/-!
# Line endings

A text is written in lines with one of the three endings after each (`endLines`), and a last line
that may do without. `splitLines` gives the lines back (`splitLines_endLines_append`). The only trap
is a CR that is meant to end a line while an LF of its own follows: the two would be read as one
ending. Every text is written in this way without the trap (`exists_endLines`), so what is known of
its lines follows.

`unifyEndings` writes each ending as one LF. This changes no line (`splitLines_unifyEndings`), and
what comes out is the lines with one LF between each and the next, and possibly one after the last
(`joinLines_splitLines`).
-/

namespace LinkDefinitions

variable {l t : Text} {c : Char} {e : LineEnding}

/-- The ways to end a line. -/
inductive LineEnding
  | lf
  | cr
  | crlf
  deriving DecidableEq, Repr

/-- The characters of an ending. -/
def LineEnding.text : LineEnding → Text
  | lf => ['\n']
  | cr => ['\r']
  | crlf => ['\r', '\n']

/-- A text in which no line ends. -/
def Unbroken (l : Text) : Prop := '\n' ∉ l ∧ '\r' ∉ l

/-- Lines written one after the other, each with its ending. -/
def endLines (ls : List (Text × LineEnding)) : Text := ls.flatMap fun (l, e) => l ++ e.text

/-- The ending of the first line is not read together with the second one. -/
def Apart (first second : Text × LineEnding) : Prop :=
  first.2 = .cr → second ≠ ([], .lf)

theorem endLines_cons (l : Text) (e : LineEnding) (ls : List (Text × LineEnding)) :
    endLines ((l, e) :: ls) = l ++ (e.text ++ endLines ls) := by
  simp [endLines]

/-- The trap is an empty line. -/
theorem isChain_apart_of_ne_nil {ls : List (Text × LineEnding)} (h : ∀ l ∈ ls, l.1 ≠ []) :
    ls.IsChain Apart := by
  refine (List.pairwise_of_forall_mem_list fun first _ second mem _ trap => ?_).isChain
  exact h second mem (by rw [trap])

/-! ### Pieces -/

theorem linePieces_ne_nil (t : Text) : linePieces t ≠ [] := by
  fun_induction linePieces t <;> simp

/-- An ordinary character belongs to the first piece. -/
theorem linePieces_cons (lf : c ≠ '\n') (cr : c ≠ '\r') (t : Text) :
    linePieces (c :: t) = (linePieces t).modifyHead (c :: ·) := by
  rw [linePieces]
  · cases eq : linePieces t with
    | nil => exact absurd eq (linePieces_ne_nil t)
    | cons l ls => rfl
  · rintro _ rfl
    exact absurd rfl cr
  · exact cr
  · exact lf

theorem linePieces_append (h : Unbroken l) (t : Text) :
    linePieces (l ++ t) = (linePieces t).modifyHead (l ++ ·) := by
  obtain ⟨lf, cr⟩ := h
  induction l with
  | nil => exact (congrFun List.modifyHead_id _).symm
  | cons c l ih =>
    rw [List.mem_cons, not_or] at lf cr
    rw [List.cons_append, linePieces_cons (Ne.symm lf.1) (Ne.symm cr.1), ih lf.2 cr.2,
      List.modifyHead_modifyHead]
    rfl

/-- An ending ends a piece. After a CR that is not followed by an LF, that is. -/
theorem linePieces_ending (h : e = .cr → t.head? ≠ some '\n') :
    linePieces (e.text ++ t) = [] :: linePieces t := by
  cases e with
  | lf => simp [LineEnding.text, linePieces]
  | crlf => simp [LineEnding.text, linePieces]
  | cr =>
    have apart := h rfl
    cases t with
    | nil => rfl
    | cons c t =>
      have other : c ≠ '\n' := fun same => apart (by simp [same])
      simp [LineEnding.text, linePieces, other]

/-- The beginning of a text is no LF unless it is written so. -/
theorem head?_endLines_append_ne {ls : List (Text × LineEnding)} {last : Text}
    (unbroken : ∀ l ∈ ls, Unbroken l.1) (unbroken_last : Unbroken last)
    (h : ls.head? ≠ some ([], .lf)) : (endLines ls ++ last).head? ≠ some '\n' := by
  match ls with
  | [] =>
    intro head
    exact unbroken_last.1 (List.mem_of_mem_head? head)
  | (c :: l, e) :: ls =>
    have inline := (unbroken _ List.mem_cons_self).1
    rw [endLines_cons, List.cons_append, List.cons_append]
    rintro ⟨⟩
    simp at inline
  | ([], .lf) :: ls => exact absurd rfl h
  | ([], .cr) :: ls => simp [endLines_cons, LineEnding.text]
  | ([], .crlf) :: ls => simp [endLines_cons, LineEnding.text]

theorem linePieces_endLines_append {ls : List (Text × LineEnding)} {last : Text}
    (unbroken : ∀ l ∈ ls, Unbroken l.1) (unbroken_last : Unbroken last)
    (apart : ls.IsChain Apart) :
    linePieces (endLines ls ++ last) = ls.map Prod.fst ++ [last] := by
  induction ls with
  | nil =>
    have whole := linePieces_append unbroken_last []
    rw [List.append_nil] at whole
    simpa [endLines, linePieces] using whole
  | cons first ls ih =>
    obtain ⟨l, e⟩ := first
    rw [List.isChain_cons] at apart
    obtain ⟨next, apart⟩ := apart
    rw [List.forall_mem_cons] at unbroken
    have ends : e = .cr → (endLines ls ++ last).head? ≠ some '\n' := fun cr =>
      head?_endLines_append_ne unbroken.2 unbroken_last fun head => next _ head cr rfl
    rw [endLines_cons, List.append_assoc, List.append_assoc, linePieces_append unbroken.1,
      linePieces_ending ends, ih unbroken.2 apart]
    simp

/-! ### Lines -/

/-- Lines are read back from what is written in them, whatever their endings. A last line without
an ending is one if it is not empty. -/
theorem splitLines_endLines_append {ls : List (Text × LineEnding)} {last : Text}
    (unbroken : ∀ l ∈ ls, Unbroken l.1) (unbroken_last : Unbroken last)
    (apart : ls.IsChain Apart) :
    splitLines (endLines ls ++ last) = ls.map Prod.fst ++ if last = [] then [] else [last] := by
  rw [splitLines, linePieces_endLines_append unbroken unbroken_last apart]
  by_cases empty : last = [] <;> simp [empty]

theorem unbroken_nil : Unbroken [] := ⟨List.not_mem_nil, List.not_mem_nil⟩

theorem splitLines_endLines {ls : List (Text × LineEnding)}
    (unbroken : ∀ l ∈ ls, Unbroken l.1) (apart : ls.IsChain Apart) :
    splitLines (endLines ls) = ls.map Prod.fst := by
  simpa using splitLines_endLines_append unbroken unbroken_nil apart

theorem unbroken_cons (lf : c ≠ '\n') (cr : c ≠ '\r') (h : Unbroken l) : Unbroken (c :: l) := by
  simpa [Unbroken, lf.symm, cr.symm] using h

/-- A text is some lines with their endings and a last one without. -/
theorem exists_endLines (t : Text) :
    ∃ ls last, endLines ls ++ last = t ∧ (∀ l ∈ ls, Unbroken l.1) ∧ Unbroken last ∧
      ls.IsChain Apart := by
  fun_induction linePieces t with
  | case1 => exact ⟨[], [], rfl, by simp, unbroken_nil, .nil⟩
  | case2 t ih =>
    obtain ⟨ls, last, rfl, unbroken, unbroken_last, apart⟩ := ih
    refine ⟨([], .crlf) :: ls, last, by simp [endLines, LineEnding.text], ?_, unbroken_last, ?_⟩
    · exact List.forall_mem_cons.2 ⟨unbroken_nil, unbroken⟩
    · exact List.isChain_cons.2 ⟨by simp [Apart], apart⟩
  | case3 t no_lf ih =>
    obtain ⟨ls, last, rfl, unbroken, unbroken_last, apart⟩ := ih
    refine ⟨([], .cr) :: ls, last, by simp [endLines, LineEnding.text], ?_, unbroken_last, ?_⟩
    · exact List.forall_mem_cons.2 ⟨unbroken_nil, unbroken⟩
    · refine List.isChain_cons.2 ⟨?_, apart⟩
      rintro second head - rfl
      obtain ⟨others, rfl⟩ := List.head?_eq_some_iff.1 head
      exact no_lf _ rfl
  | case4 t ih =>
    obtain ⟨ls, last, rfl, unbroken, unbroken_last, apart⟩ := ih
    refine ⟨([], .lf) :: ls, last, by simp [endLines, LineEnding.text], ?_, unbroken_last, ?_⟩
    · exact List.forall_mem_cons.2 ⟨unbroken_nil, unbroken⟩
    · exact List.isChain_cons.2 ⟨by simp [Apart], apart⟩
  | case5 c t no_crlf cr lf nothing ih => exact absurd nothing (linePieces_ne_nil t)
  | case6 c t no_crlf cr lf first pieces eq ih =>
    obtain ⟨ls, last, rfl, unbroken, unbroken_last, apart⟩ := ih
    cases ls with
    | nil => exact ⟨[], c :: last, rfl, by simp, unbroken_cons lf cr unbroken_last, .nil⟩
    | cons ended ls =>
      obtain ⟨l, e⟩ := ended
      rw [List.forall_mem_cons] at unbroken
      rw [List.isChain_cons] at apart
      refine ⟨(c :: l, e) :: ls, last, by simp [endLines_cons], ?_, unbroken_last, ?_⟩
      · exact List.forall_mem_cons.2 ⟨unbroken_cons lf cr unbroken.1, unbroken.2⟩
      · exact List.isChain_cons.2 apart

theorem unbroken_of_mem_splitLines (h : l ∈ splitLines t) : Unbroken l := by
  obtain ⟨ls, last, rfl, unbroken, unbroken_last, apart⟩ := exists_endLines t
  rw [splitLines_endLines_append unbroken unbroken_last apart, List.mem_append] at h
  rcases h with mem | mem
  · exact List.forall_mem_map.2 unbroken l mem
  · split at mem
    · cases mem
    · rwa [List.mem_singleton.1 mem]

/-! ### One ending for all -/

/-- The text with each ending written as one LF. -/
def unifyEndings : Text → Text
  | [] => []
  | '\r' :: '\n' :: t => '\n' :: unifyEndings t
  | '\r' :: t => '\n' :: unifyEndings t
  | c :: t => c :: unifyEndings t

/-- The text without an LF at its end. -/
def dropEnding (t : Text) : Text := if t.getLast? = some '\n' then t.dropLast else t

theorem joinLines_modifyHead {ls : List Text} (h : ls ≠ []) (c : Char) :
    joinLines (ls.modifyHead (c :: ·)) = c :: joinLines ls := by
  match ls with
  | [] => exact absurd rfl h
  | [l] => rw [List.modifyHead_cons, joinLines_singleton, joinLines_singleton]
  | l :: m :: ls =>
    have more := List.cons_ne_nil m ls
    rw [List.modifyHead_cons, joinLines_cons _ more, joinLines_cons _ more, List.cons_append]

/-- The pieces of a text make it up, with one LF for each ending. -/
theorem joinLines_linePieces (t : Text) : joinLines (linePieces t) = unifyEndings t := by
  have nonempty := linePieces_ne_nil
  fun_induction unifyEndings t with
  | case1 => rfl
  | case2 t ih => rw [linePieces, joinLines_cons [] (nonempty t), ih, List.nil_append]
  | case3 t no_lf ih => rw [linePieces.eq_3 t no_lf, joinLines_cons [] (nonempty t), ih, List.nil_append]
  | case4 c t no_crlf cr ih =>
    by_cases lf : c = '\n'
    · rw [lf, linePieces, joinLines_cons [] (nonempty t), ih, List.nil_append]
    · rw [linePieces_cons lf cr, joinLines_modifyHead (nonempty t), ih]

/-- In a text that is written in lines each ending becomes one LF. -/
theorem unifyEndings_endLines_append {ls : List (Text × LineEnding)} {last : Text}
    (unbroken : ∀ l ∈ ls, Unbroken l.1) (unbroken_last : Unbroken last)
    (apart : ls.IsChain Apart) :
    unifyEndings (endLines ls ++ last) = terminate (ls.map Prod.fst) ++ last := by
  rw [← joinLines_linePieces, linePieces_endLines_append unbroken unbroken_last apart,
    joinLines_concat]

/-- Lines that end in LF are written with that ending. -/
theorem terminate_eq_endLines (ls : List Text) :
    terminate ls = endLines (ls.map fun l => (l, .lf)) := by
  simp [terminate, endLines, LineEnding.text, List.flatMap_map]

/-- The lines of a text do not depend on the style of its endings. -/
theorem splitLines_unifyEndings (t : Text) : splitLines (unifyEndings t) = splitLines t := by
  obtain ⟨ls, last, rfl, unbroken, unbroken_last, apart⟩ := exists_endLines t
  rw [unifyEndings_endLines_append unbroken unbroken_last apart, terminate_eq_endLines,
    splitLines_endLines_append unbroken unbroken_last apart, splitLines_endLines_append]
  · simp
  · exact List.forall_mem_map.2 (List.forall_mem_map.2 unbroken)
  · exact unbroken_last
  · refine (List.pairwise_of_forall_mem_list fun first mem second _ cr => ?_).isChain
    obtain ⟨l, -, rfl⟩ := List.mem_map.1 mem
    cases cr

/-- A text with its endings written as LF is its lines with one LF between each and the next, and
possibly one more at the end. -/
theorem joinLines_splitLines (t : Text) :
    joinLines (splitLines t) = dropEnding (unifyEndings t) := by
  obtain ⟨ls, last, rfl, unbroken, unbroken_last, apart⟩ := exists_endLines t
  rw [unifyEndings_endLines_append unbroken unbroken_last apart,
    splitLines_endLines_append unbroken unbroken_last apart, dropEnding]
  by_cases empty : last = []
  · subst empty
    by_cases none : ls = []
    · simp [none, joinLines]
    · rw [terminate_eq_joinLines (by simpa using none)]
      simp
  · have inline : (terminate (ls.map Prod.fst) ++ last).getLast? ≠ some '\n' := by
      rw [List.getLast?_append_of_ne_nil _ empty]
      exact fun ends => unbroken_last.1 (List.mem_of_getLast? ends)
    rw [if_neg empty, if_neg inline, joinLines_concat]

theorem getLast?_endLines {ls : List (Text × LineEnding)} (h : (endLines ls).getLast? = some c) :
    c = '\n' ∨ c = '\r' := by
  rcases List.eq_nil_or_concat ls with rfl | ⟨before, ⟨l, e⟩, rfl⟩
  · cases h
  · have whole : endLines (before.concat (l, e)) = endLines before ++ l ++ e.text := by
      simp [endLines]
    have nonempty : e.text ≠ [] := by cases e <;> decide
    have ends : e.text.getLast? = some '\n' ∨ e.text.getLast? = some '\r' := by cases e <;> decide
    rw [whole, List.getLast?_append_of_ne_nil _ nonempty] at h
    rcases ends with lf | cr
    · exact .inl (Option.some.inj (h.symm.trans lf))
    · exact .inr (Option.some.inj (h.symm.trans cr))

/-- An ending after a last line that is not empty and has none adds no line. -/
theorem splitLines_append_ending (h : t.getLast? = some c) (lf : c ≠ '\n') (cr : c ≠ '\r')
    (e : LineEnding) : splitLines (t ++ e.text) = splitLines t := by
  obtain ⟨ls, last, rfl, unbroken, unbroken_last, apart⟩ := exists_endLines t
  have nonempty : last ≠ [] := by
    rintro rfl
    rw [List.append_nil] at h
    exact (getLast?_endLines h).elim lf cr
  have ended : endLines ls ++ last ++ e.text = endLines (ls ++ [(last, e)]) := by
    simp [endLines]
  have further : (ls ++ [(last, e)]).IsChain Apart := by
    refine List.isChain_append.2 ⟨apart, .singleton _, ?_⟩
    rintro first - second ⟨⟩ -
    simp [nonempty]
  rw [ended, splitLines_endLines _ further,
    splitLines_endLines_append unbroken unbroken_last apart, if_neg nonempty]
  · simp
  · exact List.forall_mem_append.2 ⟨unbroken, List.forall_mem_singleton.2 unbroken_last⟩

end LinkDefinitions
