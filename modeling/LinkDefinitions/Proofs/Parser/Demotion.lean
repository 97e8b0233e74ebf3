import LinkDefinitions.Proofs.Parser.Accounting

/-!
# Demotion

A line that cannot go on with a definition makes a paragraph of the block. Whatever was read of that
definition, in this line or in lines before it, comes to nothing: the definitions are those from
before the line, a pending one among them, and the line is left with all lines before it that were
(`Coherent.abides_of_demoted`). After that the block stays a paragraph, its definitions are final
and every further line is left (`Abides.after`).
-/

namespace LinkDefinitions

namespace Parser

variable {p q : Parser} {line : Text} {lines : List Text}

/-- A paragraph with the definitions of `p`, in which the given lines have been left since `p`. -/
structure Abides (p : Parser) (lines : List Text) (q : Parser) : Prop where
  stage : q.stage = .paragraph
  committed : q.committed = p.committed
  remaining : q.remaining = p.remaining ++ lines

/-- A line after which the block is a paragraph is left, and nothing else happens. -/
theorem Coherent.abides_of_demoted (h : p.Coherent) (goes_on : p.stage ≠ .paragraph)
    (demoted : (p.feed line).parser.stage = .paragraph) :
    ∃ q, p.feed line = ⟨q, none⟩ ∧ q.Coherent ∧ Abides p [line] q := by
  obtain ⟨q, fed, coherent, ⟨paragraph, -⟩ | ⟨-, reading⟩⟩ := h.feed_cases line
  · exact absurd paragraph goes_on
  · rw [fed] at demoted
    have kept : (p.keep line).Coherent := h
    have quiet := reading.quiet_of_paragraph kept goes_on demoted
    exact ⟨q, fed, coherent, demoted, quiet.committed, quiet.remaining⟩

theorem Abides.call (abides : Abides p lines q) (h : q.Coherent) (c : Call) :
    Abides p (lines ++ fedLines [c]) (q.call c) := by
  cases c with
  | feed line =>
    obtain ⟨r, fed, -, ⟨-, rfl⟩ | ⟨goes_on, -⟩⟩ := h.feed_cases line
    · rw [call_feed fed]
      refine ⟨abides.stage, abides.committed, ?_⟩
      rw [keep_remaining, abides.remaining, List.append_assoc]
      rfl
    · exact absurd abides.stage goes_on
  | harvest =>
    rw [h.call_harvest]
    refine ⟨abides.stage, (settled_committed q).trans abides.committed, ?_⟩
    rw [settled_remaining, abides.remaining]
    exact congrArg _ (List.append_nil _).symm

theorem Abides.after (abides : Abides p lines q) (h : q.Coherent) (calls : List Call) :
    Abides p (lines ++ fedLines calls) (q.after calls) := by
  induction calls generalizing q lines with
  | nil =>
    rw [after_nil]
    exact (List.append_nil lines).symm ▸ abides
  | cons c calls ih =>
    have rest := ih (abides.call h c) (h.call c)
    rwa [List.append_assoc, ← fedLines_append] at rest

/-- **Demotion.** When a line makes a paragraph of the block, nothing is lost and nothing comes
after it: whatever is called later, the block stays a paragraph, a harvest gives what it would have
given before the line, and the lines left are those from before the line, the line itself, and all
lines fed since. -/
theorem feed_demotes (limit : Nat) (calls : List Call) (line : Text) :
    let p := (fresh limit).after calls
    p.stage ≠ .paragraph → (p.feed line).parser.stage = .paragraph →
    ∃ q ds p', p.feed line = ⟨q, none⟩ ∧ p.harvest = .ok (ds, p') ∧
      ∀ later, ∃ r', (q.after later).stage = .paragraph ∧
        (q.after later).harvest = .ok (ds, r') ∧
        (q.after later).remaining = p.remaining ++ line :: fedLines later := by
  intro p goes_on demoted
  have coherent : p.Coherent := coherent_after limit calls
  obtain ⟨q, fed, q_coherent, abides⟩ := coherent.abides_of_demoted goes_on demoted
  refine ⟨q, p.committed, p.settled, fed, coherent.harvest_eq, fun later => ?_⟩
  have rests := abides.after q_coherent later
  refine ⟨(q.after later).settled, rests.stage, ?_, rests.remaining⟩
  rw [(q_coherent.after later).harvest_eq, rests.committed]

/-- A title that fails in its second line, with its definition pending. -/
theorem feed_demotes_brokenTitle :
    let p := (fresh 999).after [.feed "[a]: /x".toList, .feed "\"one".toList]
    p.stage ≠ .paragraph ∧ (p.feed "two\" three".toList).parser.stage = .paragraph ∧
      ∀ later, ∃ r',
        ((p.feed "two\" three".toList).parser.after later).harvest =
          .ok ([⟨['a'], "/x".toList, none⟩], r') ∧
        ((p.feed "two\" three".toList).parser.after later).remaining =
          "\"one".toList :: "two\" three".toList :: fedLines later := by
  intro p
  have goes_on : p.stage ≠ .paragraph := by decide +kernel
  have demoted : (p.feed "two\" three".toList).parser.stage = .paragraph := by decide +kernel
  have left : p.remaining = ["\"one".toList] := by decide +kernel
  have known : p.harvest = .ok ([⟨['a'], "/x".toList, none⟩], p.settled) := by decide +kernel
  obtain ⟨q, ds, p', fed, harvest, rests⟩ := feed_demotes 999
    [.feed "[a]: /x".toList, .feed "\"one".toList] "two\" three".toList goes_on demoted
  obtain ⟨rfl, -⟩ := Prod.mk.inj (Except.ok.inj (harvest.symm.trans known))
  refine ⟨goes_on, demoted, fun later => ?_⟩
  rw [congrArg Feeding.parser fed]
  obtain ⟨r', -, harvest', remaining⟩ := rests later
  exact ⟨r', harvest', by rw [remaining, left]; rfl⟩

end Parser

end LinkDefinitions
