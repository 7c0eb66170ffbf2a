import MarkupDirectives.Proofs.Locality.Barrier
import MarkupDirectives.Proofs.Render.Rewriting

namespace MarkupDirectives

open Text Cursor Polling

/-!
# Splicing at a barrier

If a barrier stands between two texts, then what is found in the joined text is
what is found in the two, the second part moved.  Without a barrier the last
directive of the first text may find its value in the second.
-/

namespace Dialect

variable {dialect : Dialect} {c : Char} {front back : Text}

/-- No directive of the text is malformed. -/
def Accepts (dialect : Dialect) (text : Text) : Prop :=
  forall error, .error error ∉ dialect.locate text

theorem accepts_iff {text : Text} :
    dialect.Accepts text ↔
      Exists fun spans : List Span => dialect.locate text = outcome spans none := by
  constructor
  · intro accepts
    rcases dialect.exists_located text with ⟨spans, failure, _, items, _⟩
    cases failure with
    | none => exact ⟨spans, items⟩
    | some error =>
        have member : .error error ∈ dialect.locate text := by
          rw [items, outcome]
          exact List.mem_append_right _ (List.mem_singleton.mpr rfl)
        exact absurd member (accepts error)
  · rintro ⟨spans, items⟩ error member
    rw [items, outcome] at member
    simp at member

theorem Barrier.search_splice (barrier : dialect.Barrier c) {spans others : List Span}
    {failure : Option SyntaxError} (inFront : dialect.Search (Cursor.start front) spans none)
    (inBack : dialect.Search (Cursor.start back) others failure) :
    dialect.Search (Cursor.start (front ++ c :: back))
      (spans ++ others.map (Span.shift (width (front ++ [c]))))
      (failure.map (SyntaxError.shift (width (front ++ [c])))) := by
  have place :
      (Cursor.start back).shift (width (front ++ [c])) =
        ⟨(Cursor.start front).textEnd + c.utf8Size, back⟩ := by
    simp [Cursor.shift, Cursor.start, textEnd]
  have behind := inBack.shift (width (front ++ [c]))
  rw [place] at behind
  exact inFront.splice barrier behind

/-- The items of the joined text are those of the two texts. -/
theorem Barrier.locate_splice (barrier : dialect.Barrier c) (accepts : dialect.Accepts front) :
    dialect.locate (front ++ c :: back) =
      dialect.locate front ++ (dialect.locate back).map (Finding.shift (width (front ++ [c]))) := by
  rcases accepts_iff.mp accepts with ⟨spans, inFront⟩
  rcases dialect.exists_located back with ⟨others, failure, search, inBack, _⟩
  have whole := barrier.search_splice (search_of_locate inFront) search
  have items : dialect.locate (front ++ c :: back) = _ := Locator.items_of_search whole
  rw [items, inFront, inBack, map_shift_outcome]
  simp [outcome]

/-- A text between two barriers moves what stands behind it, by its length. -/
theorem Barrier.locate_between {d : Char} {middle : Text} (barrier : dialect.Barrier c)
    (alsoBarrier : dialect.Barrier d) (inFront : dialect.Accepts front)
    (inMiddle : dialect.Accepts middle) :
    dialect.locate (front ++ c :: (middle ++ d :: back)) =
      dialect.locate front ++ (dialect.locate middle).map (Finding.shift (width (front ++ [c]))) ++
        (dialect.locate back).map (Finding.shift (width (front ++ c :: (middle ++ [d])))) := by
  have length :
      width (middle ++ [d]) + width (front ++ [c]) = width (front ++ c :: (middle ++ [d])) := by
    simp only [width_append, width_cons, width_nil]
    omega
  have moved : Finding.shift (width (front ++ [c])) ∘ Finding.shift (width (middle ++ [d])) =
      Finding.shift (width (front ++ c :: (middle ++ [d]))) := by
    funext item
    rw [Function.comp_apply, Finding.shift_shift, length]
  rw [barrier.locate_splice inFront, alsoBarrier.locate_splice inMiddle, List.map_append,
    List.map_map, moved, List.append_assoc]

end Dialect

/-! ## Rendering -/

namespace Renderer

variable {F : Type} {renderer : Renderer F} {c : Char} {front back : Text}
  {spans others : List Span}

/-- The directives of the joined text are those of the two texts, and they are
written as there. -/
theorem splice_rewrite (barrier : renderer.dialect.Barrier c)
    (inFront : renderer.dialect.locate front = outcome spans none)
    (inBack : renderer.dialect.locate back = outcome others none)
    (frontHandled : forall span, span ∈ spans -> renderer.Handles (span.text front))
    (backHandled : forall span, span ∈ others -> renderer.Handles (span.text back))
    (write : Text -> Text) :
    renderer.dialect.locate (front ++ c :: back) =
        outcome (spans ++ others.map (Span.shift (width (front ++ [c])))) none ∧
      (forall span, span ∈ spans ++ others.map (Span.shift (width (front ++ [c]))) ->
        renderer.Handles (span.text (front ++ c :: back))) ∧
      Span.rewrite write (front ++ c :: back) 0
        (spans ++ others.map (Span.shift (width (front ++ [c])))) =
        Span.rewrite write front 0 spans ++ c :: Span.rewrite write back 0 others := by
  have frontSearch := Dialect.search_of_locate inFront
  have backSearch := Dialect.search_of_locate inBack
  have frontPromise := frontSearch.keeps_promise (liesIn_start front)
  have backPromise := backSearch.keeps_promise (liesIn_start back)
  have joined : front ++ c :: back = (front ++ [c]) ++ back := by simp
  refine ⟨Locator.items_of_search (barrier.search_splice frontSearch backSearch), ?_, ?_⟩
  · intro span member
    rcases List.mem_append.mp member with inside | behind
    · rw [Span.text_append_left (frontPromise.bounded span inside).2]
      exact frontHandled span inside
    · rcases List.mem_map.mp behind with ⟨other, alsoMember, rfl⟩
      rw [joined, Span.shift, Span.text_append_right]
      exact backHandled other alsoMember
  · apply Span.rewrite_splice
    · intro span member
      have bounded := frontPromise.bounded span member
      exact ⟨Nat.le_of_lt bounded.1, bounded.2, (frontPromise.boundaries span member).2⟩
    · exact fun span member => (backPromise.boundaries span member).1

end Renderer

/-- Behind a text without a malformed directive and a barrier, the items of any other
text follow, moved.  Between two barriers any text can stand in the place of
another.  Two texts with a barrier between are rendered to their results with the
barrier between. -/
theorem Dialect.splice_at_barrier (dialect : Dialect) {c d : Char} (barrier : dialect.Barrier c)
    (alsoBarrier : dialect.Barrier d) :
    (forall front back, dialect.Accepts front ->
      dialect.locate (front ++ c :: back) =
        dialect.locate front ++ (dialect.locate back).map (Finding.shift (width (front ++ [c])))) ∧
    (forall front middle other back,
      dialect.Accepts front -> dialect.Accepts middle -> dialect.Accepts other ->
      Exists fun behind : List Finding => Exists fun otherBehind : List Finding =>
        dialect.locate (front ++ c :: (middle ++ d :: back)) =
          dialect.locate front ++
          (dialect.locate middle).map (Finding.shift (width (front ++ [c]))) ++ behind ∧
        dialect.locate (front ++ c :: (other ++ d :: back)) =
          dialect.locate front ++
          (dialect.locate other).map (Finding.shift (width (front ++ [c]))) ++ otherBehind ∧
        behind = (dialect.locate back).map (Finding.shift (width (front ++ c :: (middle ++ [d])))) ∧
        behind.map (Finding.shift (width other)) = otherBehind.map (Finding.shift (width middle))) ∧
    (forall (F : Type) (registry : Registry F) (front back : Text),
      (forall (display : F -> Text) (frontHtml backHtml : Text),
        Renderer.renderText ⟨dialect, registry⟩ display front = .ok frontHtml ->
        Renderer.renderText ⟨dialect, registry⟩ display back = .ok backHtml ->
        Renderer.renderText ⟨dialect, registry⟩ display (front ++ c :: back) =
          .ok (frontHtml ++ c :: backHtml)) ∧
      (forall (State : Type) (sink : Sink F State) (state : State) (frontCount backCount : Nat),
        (Renderer.render ⟨dialect, registry⟩ sink front state).2 = .ok frontCount ->
        (Renderer.render ⟨dialect, registry⟩ sink back state).2 = .ok backCount ->
        (Renderer.render ⟨dialect, registry⟩ sink (front ++ c :: back) state).2 =
          .ok (frontCount + backCount))) := by
  refine ⟨fun front back => barrier.locate_splice, ?_, ?_⟩
  · intro front middle other back inFront inMiddle inOther
    refine ⟨_, _, barrier.locate_between alsoBarrier inFront inMiddle,
      barrier.locate_between alsoBarrier inFront inOther, rfl, ?_⟩
    rw [List.map_map, List.map_map]
    apply List.map_congr_left
    intro item _
    rw [Function.comp_apply, Function.comp_apply, Finding.shift_shift, Finding.shift_shift]
    congr 1
    simp only [width_append, width_cons, width_nil]
    omega
  · intro F registry front back
    constructor
    · intro display frontHtml backHtml frontRendered backRendered
      rcases Renderer.renderText_eq_ok_iff.mp frontRendered with ⟨spans, inFront, frontHandled, rfl⟩
      rcases Renderer.renderText_eq_ok_iff.mp backRendered with ⟨others, inBack, backHandled, rfl⟩
      rcases Renderer.splice_rewrite barrier inFront inBack frontHandled backHandled
        (Renderer.displayed ⟨dialect, registry⟩ display) with ⟨located, handled, written⟩
      exact Renderer.renderText_eq_ok_iff.mpr ⟨_, located, handled, written.symm⟩
    · intro State sink state frontCount backCount frontRendered backRendered
      rcases Renderer.render_snd_eq_ok_iff.mp frontRendered with ⟨spans, inFront, frontHandled, rfl⟩
      rcases Renderer.render_snd_eq_ok_iff.mp backRendered with ⟨others, inBack, backHandled, rfl⟩
      rcases Renderer.splice_rewrite barrier inFront inBack frontHandled backHandled id with
        ⟨located, handled, _⟩
      refine Renderer.render_snd_eq_ok_iff.mpr ⟨_, located, handled, ?_⟩
      rw [List.length_append, List.length_map]

/-- Joined without the barrier the two texts would be one directive with a value
in parentheses, and the second text has a malformed directive. -/
theorem Dialect.splice_at_barrier_semicolon :
    standard.Barrier ';' ∧ standard.Barrier '|' ∧ standard.Accepts "é blatex:a=".toList ∧
      standard.locate ("é blatex:a=".toList ++ ';' :: "(x) blatex:b=)".toList) =
        [.ok ⟨3, 12⟩, .error (.unexpectedClosing 26 [')'])] := by
  have semicolon : standard.Barrier ';' :=
    ⟨by decide +kernel, by decide +kernel, by decide, by decide, by decide, by decide⟩
  have bar : standard.Barrier '|' :=
    ⟨by decide +kernel, by decide +kernel, by decide, by decide, by decide, by decide⟩
  have accepts : standard.Accepts "é blatex:a=".toList := by
    apply accepts_iff.mpr
    have items : standard.locate "é blatex:a=".toList = [.ok ⟨3, 12⟩] := by decide +kernel
    exact ⟨[⟨3, 12⟩], items⟩
  rcases splice_at_barrier standard semicolon bar with ⟨locates, _, _⟩
  refine ⟨semicolon, bar, accepts, ?_⟩
  rw [locates _ _ accepts]
  decide +kernel

end MarkupDirectives
