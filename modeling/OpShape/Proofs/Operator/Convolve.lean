/-
# `OpShape.Proofs.Operator.Convolve` — convolutions read and write only what is there.

A kernel position that reaches past an input is left out, so that the spatial coordinates of what is
read lie inside the input.  Channels are found by group: as the channels are divided among the
groups without a rest, the channel of a group is one of all channels, and where there is a channel
at all no group is empty.
-/
import OpShape.Proofs.Operator.Index
import OpShape.Proofs.Operator.Motion

namespace OpShape.Operator

open Tensor (HasSizes AnswersAtAll answers_fetch answers_at? answers_ofData answers_ofIndices
  answers_ofOffsets)

variable {α : Type}

attribute [local irreducible] signed

/-! ## Positions that are reached -/

theorem reach_lt {motion : Motion} {outer inner size position : Nat}
    (h : reach? motion outer inner size = some position) : position < size := by
  have hle := signed_le size
  unfold reach? at h
  dsimp only at h
  split at h
  · cases h
  · next hinside =>
    rw [← Option.some.inj h]
    omega

/-- **What is reached along all dimensions lies inside.** -/
theorem inside_reachAll {motions : List Motion} {outers inners positions : List Nat} {sizes : Sizes}
    (hmotions : motions.length = sizes.length) (houters : outers.length = sizes.length)
    (hinners : inners.length = sizes.length)
    (h : reachAll? motions outers inners sizes = some positions) : Inside positions sizes := by
  induction sizes generalizing motions outers inners positions with
  | nil =>
    rw [List.eq_nil_of_length_eq_zero hmotions] at h
    obtain rfl : [] = positions := Option.some.inj h
    exact .nil
  | cons size sizes ih =>
    obtain ⟨motion, motions, rfl⟩ := List.exists_cons_of_length_eq_add_one hmotions
    obtain ⟨outer, outers, rfl⟩ := List.exists_cons_of_length_eq_add_one houters
    obtain ⟨inner, inners, rfl⟩ := List.exists_cons_of_length_eq_add_one hinners
    rw [reachAll?] at h
    simp only [Option.bind_eq_bind, Option.bind_eq_some_iff, Option.some.injEq] at h
    obtain ⟨position, hposition, rest, hrest, rfl⟩ := h
    exact .cons (reach_lt hposition)
      (ih (Nat.succ.inj hmotions) (Nat.succ.inj houters) (Nat.succ.inj hinners) hrest)

/-- The kernel positions of a list that reach inside, each with what it reaches. -/
theorem mem_reached {motions : List Motion} {place : List Nat} {kernel spatial : Sizes}
    (hmotions : motions.length = spatial.length) (hplace : place.length = spatial.length)
    (hkernel : kernel.length = spatial.length) {entry : List Nat × List Nat}
    (h : entry ∈ (List.range (elementCount kernel)).filterMap fun k =>
      let inner := unravel k kernel
      (reachAll? motions place inner spatial).map fun source => (source, inner)) :
    Inside entry.1 spatial ∧ Inside entry.2 kernel := by
  obtain ⟨k, hk, hentry⟩ := List.mem_filterMap.mp h
  have hinner := inside_unravel_of_lt (List.mem_range.mp hk)
  obtain ⟨source, hsource, rfl⟩ := Option.map_eq_some_iff.mp hentry
  refine ⟨?_, hinner⟩
  exact inside_reachAll hmotions hplace (hinner.length.trans hkernel) hsource

/-! ## Channels in groups -/

/-- A channel that is there belongs to a group that is there, and no group is empty. -/
theorem group_lt {groups size channel : Nat} (h : channel < groups * size) :
    size ≠ 0 ∧ channel / size < groups := by
  have hsize : 0 < size := Nat.pos_of_mul_pos_left (Nat.zero_lt_of_lt h)
  refine ⟨Nat.ne_of_gt hsize, ?_⟩
  rw [Nat.div_lt_iff_lt_mul hsize]
  exact h

/-! ## Bias -/

theorem checkBias_alike (bias : Option (Tensor α)) (channels : Nat) :
    Alike (fun _ _ => ∀ tensor, bias = some tensor → tensor.sizes = [channels])
      (Rule.checkBias (bias.map Tensor.sizes) channels) (requireBias bias channels) := by
  unfold Rule.checkBias requireBias
  cases bias with
  | none => exact fun _ h => by cases h
  | some tensor =>
    dsimp only [Option.map_some]
    by_cases hsizes : tensor.sizes = [channels]
    · rw [if_neg (not_not.mpr hsizes), if_pos hsizes]
      intro other hother
      rw [← Option.some.inj hother]
      exact hsizes
    · rw [if_pos hsizes, if_neg hsizes]
      exact alike_error_error

/-- **A bias with one element per channel is added without breaking down.** -/
theorem answers_addBias [Scalar α] {bias : Option (Tensor α)} {output : Tensor α}
    {batches channels : Nat} {out : Sizes} (houtput : output.sizes = batches :: channels :: out)
    (hbias : ∀ tensor, bias = some tensor → tensor.sizes = [channels]) :
    Answers (HasSizes output.sizes) (addBias bias output) := by
  unfold addBias
  cases bias with
  | none => exact rfl
  | some tensor =>
    apply answers_ofOffsets
    intro offset hoffset
    have hinside := inside_unravel_of_lt hoffset
    have hlength : 1 < (unravel offset output.sizes).length := by
      rw [length_unravel, houtput]
      exact Nat.succ_lt_succ (Nat.succ_pos _)
    have hchannel := hinside.getElem_lt (List.getElem?_eq_getElem hlength)
    have hcount : tensor.data.size = channels := by
      rw [tensor.size_data, hbias tensor rfl, elementCount_cons, elementCount_nil, Nat.mul_one]
    have hsize : sizeAt output.sizes 1 = tensor.data.size := by
      rw [houtput, hcount]
      rfl
    rw [Checked.get_of_lt hlength, ok_bind,
      Checked.fetch_of_lt (Nat.lt_of_lt_of_eq hoffset output.size_data.symm), ok_bind,
      Checked.fetch_of_lt (Nat.lt_of_lt_of_eq hchannel hsize), ok_bind]
    trivial

/-! ## Convolution -/

theorem answers_convTerms [Scalar α] {input weight : Tensor α} {motions : List Motion}
    {batch out firstIn groupIn : Nat} {spatial kernel place : List Nat}
    (hmotions : motions.length = spatial.length) (hplace : place.length = spatial.length)
    (hkernel : kernel.length = spatial.length)
    (hinput : ∀ c < groupIn, ∀ source, Inside source spatial →
      Inside (batch :: (firstIn + c) :: source) input.sizes)
    (hweight : ∀ c < groupIn, ∀ inner, Inside inner kernel →
      Inside (out :: c :: inner) weight.sizes) :
    AnswersAtAll (convTerms input weight motions batch out firstIn groupIn spatial kernel place) := by
  unfold convTerms
  have hchannels : Answers (List.Forall₂ (fun _ _ => True) (List.range groupIn))
      ((List.range groupIn).mapM fun c => do
        let reached := (List.range (elementCount kernel)).filterMap fun k =>
          let inner := unravel k kernel
          (reachAll? motions place inner spatial).map fun source => (source, inner)
        reached.mapM fun entry => do
          let x ← input.at? (batch :: (firstIn + c) :: entry.1)
          let w ← weight.at? (out :: c :: entry.2)
          .ok (x * w) : OpResult (List (List α))) := by
    apply Answers.mapM
    intro c hc
    have hc' := List.mem_range.mp hc
    refine (Answers.mapM (R := fun _ _ => True) fun entry hentry => ?_).imp fun _ _ => trivial
    obtain ⟨hsource, hinner⟩ := mem_reached hmotions hplace hkernel hentry
    apply (answers_at? (hinput c hc' _ hsource)).bind
    intro x _
    exact (answers_at? (hweight c hc' _ hinner)).bind fun w _ => trivial
  exact hchannels.bind fun perChannel _ => trivial

/-- **A convolution answers** for operands that go together, whatever the motions are. -/
theorem answers_convolve [Scalar α] {input weight : Tensor α} {params : ConvMotion}
    {batches groups groupIn groupOut : Nat} {spatial kernel out : Sizes}
    (hinput : input.sizes = batches :: (groupIn * groups) :: spatial)
    (hweight : weight.sizes = (groups * groupOut) :: groupIn :: kernel)
    (hmotions : params.motions.length = spatial.length) (hkernel : kernel.length = spatial.length)
    (hout : out.length = spatial.length) :
    Answers (HasSizes (batches :: (groups * groupOut) :: out))
      (convolve input weight params (batches :: (groups * groupOut) :: out) groupIn groupOut) := by
  unfold convolve
  dsimp only
  rw [hinput, hweight]
  apply answers_ofIndices
  intro index hindex
  cases hindex with
  | @cons batch _ index _ hbatch hindex =>
    cases hindex with
    | @cons channel _ place _ hchannel hplace =>
      -- There is a channel to compute, so that its group has channels at all.
      obtain ⟨hgroupOut, hgroup⟩ := group_lt hchannel
      dsimp only
      rw [Checked.div_of_ne_zero hgroupOut, ok_bind]
      refine (answers_convTerms hmotions (hplace.length_eq.trans hout) hkernel ?_ ?_).bind
        fun terms _ => trivial
      · intro c hc source hsource
        rw [hinput, Nat.mul_comm groupIn]
        exact .cons hbatch (.cons (row_add_lt hgroup hc) hsource)
      · intro c hc inner hinner
        rw [hweight]
        exact .cons hchannel (.cons hc hinner)

/-! ## Transposed convolution -/

/-- **What one input element adds to a transposed convolution lies inside the answer.** -/
theorem answers_spreadElement [Scalar α] {input weight : Tensor α} {params : ConvMotion}
    {batches groups groupIn groupOut : Nat} {spatial kernel out : Sizes}
    (hinput : input.sizes = batches :: (groups * groupIn) :: spatial)
    (hweight : weight.sizes = (groups * groupIn) :: groupOut :: kernel)
    (hmotions : params.motions.length = spatial.length) (hkernel : kernel.length = spatial.length)
    (hout : out.length = spatial.length) {offset : Nat} (hoffset : offset < input.data.size) :
    Answers (fun entries : List (Nat × α) => ∀ entry ∈ entries,
        entry.1 < elementCount (batches :: (groupOut * groups) :: out))
      (spreadElement input weight params (batches :: (groupOut * groups) :: out) groupIn groupOut
        offset) := by
  unfold spreadElement
  rw [Checked.fetch_of_lt hoffset, ok_bind]
  have hindex := inside_unravel_of_lt (Nat.lt_of_lt_of_eq hoffset input.size_data)
  generalize unravel offset input.sizes = index at hindex
  rw [hinput] at hindex
  cases hindex with
  | @cons batch _ index _ hbatch hindex =>
    cases hindex with
    | @cons channel _ place _ hchannel hplace =>
      -- There is a channel to read, so that its group has channels at all.
      obtain ⟨hgroupIn, hgroup⟩ := group_lt hchannel
      dsimp only
      rw [Checked.div_of_ne_zero hgroupIn, ok_bind, hweight]
      have hmotions' : params.motions.length = out.length := hmotions.trans hout.symm
      have hplace' : place.length = out.length := hplace.length_eq.trans hout.symm
      have hkernel' : kernel.length = out.length := hkernel.trans hout.symm
      refine (Answers.mapM (R := fun _ entries => ∀ entry ∈ entries,
        entry.1 < elementCount (batches :: (groupOut * groups) :: out)) fun c hc => ?_).bind ?_
      · have hc' := List.mem_range.mp hc
        refine (Answers.mapM (R := fun _ entry =>
          entry.1 < elementCount (batches :: (groupOut * groups) :: out))
            fun reached hreached => ?_).imp ?_
        · obtain ⟨htarget, hinner⟩ := mem_reached hmotions' hplace' hkernel' hreached
          have hread : Inside (channel :: c :: reached.2) weight.sizes := by
            rw [hweight]
            exact .cons hchannel (.cons hc' hinner)
          apply (answers_at? hread).bind
          intro w _
          refine ravel_lt (.cons hbatch (.cons ?_ htarget))
          rw [Nat.mul_comm groupOut]
          exact row_add_lt hgroup hc'
        · intro entries hentries
          exact (forall₂_right_iff.mp hentries).2
      · intro perChannel hperChannel
        exact forall_mem_flatten_of_forall₂ hperChannel

/-- **What all input elements spread is added up without breaking down.** -/
theorem answers_spread [Scalar α] {input weight : Tensor α} {params : ConvMotion}
    {batches groups groupIn groupOut : Nat} {spatial kernel out : Sizes}
    (hinput : input.sizes = batches :: (groups * groupIn) :: spatial)
    (hweight : weight.sizes = (groups * groupIn) :: groupOut :: kernel)
    (hmotions : params.motions.length = spatial.length) (hkernel : kernel.length = spatial.length)
    (hout : out.length = spatial.length) :
    let sizes := batches :: (groupOut * groups) :: out
    Answers (HasSizes sizes)
      (do
        let entries ← (List.range input.data.size).mapM
          (spreadElement input weight params sizes groupIn groupOut)
        let data ← writeAll (· + ·) (Array.replicate (elementCount sizes) Scalar.zero) entries.flatten
        Tensor.ofData sizes data : OpResult (Tensor α)) := by
  intro sizes
  have hentries : Answers (List.Forall₂ (fun _ (entries : List (Nat × α)) =>
        ∀ entry ∈ entries, entry.1 < elementCount sizes) (List.range input.data.size))
      ((List.range input.data.size).mapM
        (spreadElement input weight params sizes groupIn groupOut)) := by
    apply Answers.mapM
    intro offset hoffset
    exact answers_spreadElement hinput hweight hmotions hkernel hout (List.mem_range.mp hoffset)
  apply hentries.bind
  intro entries hentries
  generalize hblank : (Array.replicate (elementCount sizes) Scalar.zero : Array α) = blank
  have hsize : blank.size = elementCount sizes := by
    rw [← hblank, Array.size_replicate]
  have hwrites : ∀ entry ∈ entries.flatten, entry.1 < blank.size := by
    rw [hsize]
    exact forall_mem_flatten_of_forall₂ hentries
  apply (answers_writeAll hwrites).bind
  intro data hdata
  exact answers_ofData (hdata.trans hsize)

end OpShape.Operator
