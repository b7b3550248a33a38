/-
# `OpShape.Proofs.Operator.Write` — what is written to picked elements.

A run of writes may come to one offset several times.  Seen from an offset, the run is the list of
the values that it writes there, one after the other; everything else of the run is far away.  What
holds after a put is read off that list: it is empty where nothing is picked, its last entry stays
where values are replaced, and all of it is added up where they accumulate.
-/
import OpShape.Proofs.Operator.Index

namespace OpShape.Operator

variable {α : Type}

/-! ## The values of one offset -/

/-- The values that a run of writes brings to an offset, in the order of the run. -/
def writtenTo (offset : Nat) (entries : List (Nat × α)) : List α :=
  (entries.filter fun entry => entry.1 == offset).map Prod.snd

theorem writtenTo_cons_self (offset : Nat) (value : α) (entries : List (Nat × α)) :
    writtenTo offset ((offset, value) :: entries) = value :: writtenTo offset entries := by
  simp [writtenTo]

theorem writtenTo_cons_of_ne {offset other : Nat} (h : other ≠ offset) (value : α)
    (entries : List (Nat × α)) :
    writtenTo offset ((other, value) :: entries) = writtenTo offset entries := by
  simp [writtenTo, h]

/-- Nothing comes to an offset that no write names. -/
theorem writtenTo_of_not_mem {offset : Nat} {entries : List (Nat × α)}
    (h : offset ∉ entries.map Prod.fst) : writtenTo offset entries = [] := by
  unfold writtenTo
  rw [List.map_eq_nil_iff, List.filter_eq_nil_iff]
  rintro ⟨other, value⟩ hentry hsame
  have hother : other = offset := beq_iff_eq.mp hsame
  exact h (hother ▸ List.mem_map_of_mem (f := Prod.fst) hentry)

/-- Nothing comes to an offset that is not picked. -/
theorem writtenTo_zip_of_not_mem {offset : Nat} {offsets : List Nat} (h : offset ∉ offsets)
    (values : List α) : writtenTo offset (offsets.zip values) = [] := by
  apply writtenTo_of_not_mem
  intro hmem
  obtain ⟨⟨other, value⟩, hentry, rfl⟩ := List.mem_map.mp hmem
  exact h (List.of_mem_zip hentry).1

/-- One value comes to an offset that one write names. -/
theorem writtenTo_of_nodup {entry : Nat × α} {entries : List (Nat × α)}
    (hnodup : (entries.map Prod.fst).Nodup) (h : entry ∈ entries) :
    writtenTo entry.1 entries = [entry.2] := by
  induction entries with
  | nil => cases h
  | cons first rest ih =>
    obtain ⟨hfirst, hrest⟩ := List.nodup_cons.mp hnodup
    rcases List.mem_cons.mp h with rfl | hmem
    · rw [writtenTo_cons_self, writtenTo_of_not_mem hfirst]
    · have hne : first.1 ≠ entry.1 := fun hsame =>
        hfirst (hsame ▸ List.mem_map_of_mem (f := Prod.fst) hmem)
      rw [writtenTo_cons_of_ne hne, ih hrest hmem]

/-! ## Last picks -/

/-- **`LastPick offsets offset place`** — the place is the last one at which the offset is
picked. -/
def LastPick (offsets : List Nat) (offset place : Nat) : Prop :=
  offsets[place]? = some offset ∧ ∀ later, place < later → offsets[later]? ≠ some offset

/-- What is picked at all is picked for a last time. -/
theorem exists_lastPick {offsets : List Nat} {offset : Nat} (h : offset ∈ offsets) :
    ∃ place, LastPick offsets offset place := by
  induction offsets with
  | nil => cases h
  | cons first rest ih =>
    by_cases hrest : offset ∈ rest
    · obtain ⟨place, hplace, hlast⟩ := ih hrest
      refine ⟨place + 1, hplace, ?_⟩
      intro later hlater
      cases later with
      | zero => omega
      | succ later => exact hlast later (Nat.lt_of_succ_lt_succ hlater)
    · have hfirst : offset = first := (List.mem_cons.mp h).resolve_right hrest
      refine ⟨0, congrArg some hfirst.symm, ?_⟩
      intro later hlater hpick
      cases later with
      | zero => omega
      | succ later => exact hrest (List.mem_of_getElem? hpick)

/-- **The value of the last pick comes last**, whatever comes to the offset before it. -/
theorem writtenTo_zip_lastPick {offsets : List Nat} {values : List α} {offset place : Nat}
    {value : α} (hpick : LastPick offsets offset place) (hvalue : values[place]? = some value) :
    ∃ before, writtenTo offset (offsets.zip values) = before ++ [value] := by
  induction offsets generalizing values place with
  | nil => cases hpick.1
  | cons first rest ih =>
    obtain ⟨hplace, hlast⟩ := hpick
    cases values with
    | nil => cases hvalue
    | cons head values =>
      rw [List.zip_cons_cons]
      cases place with
      | zero =>
        -- Behind the last pick the offset does not come up again.
        have hrest : offset ∉ rest := by
          intro hmem
          obtain ⟨later, hlater⟩ := List.mem_iff_getElem?.mp hmem
          exact hlast (later + 1) (Nat.succ_pos later) hlater
        have hfirst : first = offset := Option.some.inj hplace
        have hhead : head = value := Option.some.inj hvalue
        rw [hfirst, hhead, writtenTo_cons_self, writtenTo_zip_of_not_mem hrest]
        exact ⟨[], rfl⟩
      | succ place =>
        have hpick : LastPick rest offset place :=
          ⟨hplace, fun later hlater => hlast (later + 1) (Nat.succ_lt_succ hlater)⟩
        obtain ⟨before, hbefore⟩ := ih hpick hvalue
        by_cases hfirst : first = offset
        · rw [hfirst, writtenTo_cons_self, hbefore]
          exact ⟨head :: before, rfl⟩
        · rw [writtenTo_cons_of_ne hfirst, hbefore]
          exact ⟨before, rfl⟩

/-! ## Runs of writes -/

/-- One write changes the offset that it names, and no other one. -/
theorem getElem?_write (write : α → α → α) {data : Array α} {entry : Nat × α}
    (h : entry.1 < data.size) (offset : Nat) :
    (data.set entry.1 (write data[entry.1] entry.2) h)[offset]? =
      data[offset]?.map fun old => (writtenTo offset [entry]).foldl write old := by
  obtain ⟨place, value⟩ := entry
  rcases eq_or_ne place offset with rfl | hplace
  · rw [writtenTo_cons_self, Array.getElem?_set_self, Array.getElem?_eq_getElem h]
    rfl
  · rw [writtenTo_cons_of_ne hplace, Array.getElem?_set_ne h hplace]
    exact Option.map_id'.symm

/-- **What a run of writes leaves at an offset**: what was there, and the values that come to it
written on top of each other. -/
theorem writeAll_reads {write : α → α → α} {data written : Array α} {entries : List (Nat × α)}
    (h : writeAll write data entries = .ok written) (offset : Nat) :
    written[offset]? =
      data[offset]?.map fun old => (writtenTo offset entries).foldl write old := by
  induction entries generalizing data with
  | nil =>
    obtain rfl : data = written := Except.ok.inj h
    exact Option.map_id'.symm
  | cons entry entries ih =>
    have hentry : entry.1 < data.size := writeAll_answers.mp ⟨written, h⟩ entry List.mem_cons_self
    unfold writeAll at h
    rw [List.foldlM_cons, Checked.fetch_of_lt hentry, ok_bind, Checked.store_of_lt hentry,
      ok_bind] at h
    have hsplit : writtenTo offset (entry :: entries) =
        writtenTo offset [entry] ++ writtenTo offset entries := by
      unfold writtenTo
      rw [← List.map_append, ← List.filter_append]
      rfl
    rw [ih h, getElem?_write write hentry, Option.map_map, hsplit]
    simp only [List.foldl_append]
    rfl

/-- **Where every offset is written to once** it holds what is written there, whatever was there
before. -/
theorem answers_writeAll_once {data : Array α} {entries : List (Nat × α)}
    (honce : (entries.map Prod.fst).Perm (List.range data.size)) :
    Answers (fun written : Array α =>
        written.size = data.size ∧ ∀ entry ∈ entries, written[entry.1]? = some entry.2)
      (writeAll (fun _ new => new) data entries) := by
  have hlt : ∀ entry ∈ entries, entry.1 < data.size := fun entry hentry =>
    List.mem_range.mp (honce.mem_iff.mp (List.mem_map_of_mem (f := Prod.fst) hentry))
  obtain ⟨written, hwritten, hsize⟩ := answers_iff.mp (answers_writeAll hlt)
  refine answers_iff.mpr ⟨written, hwritten, hsize, fun entry hentry => ?_⟩
  rw [writeAll_reads hwritten, writtenTo_of_nodup (honce.nodup_iff.mpr List.nodup_range) hentry,
    Array.getElem?_eq_getElem (hlt entry hentry)]
  rfl

/-! ## Picked elements, written and read -/

/-- As many elements are picked as their sizes ask for. -/
theorem length_of_pickedElements {sizes : Sizes} {indices : List (Option (Tensor Int))}
    {picked : Picked} (h : pickedElements sizes indices = .ok picked) :
    picked.offsets.length = elementCount picked.sizes := by
  unfold pickedElements at h
  obtain ⟨-, h⟩ := guarded_eq_ok.mp h
  obtain ⟨common, -, h⟩ := bind_eq_ok.mp h
  obtain ⟨wides, -, h⟩ := bind_eq_ok.mp h
  obtain ⟨leading, -, h⟩ := bind_eq_ok.mp h
  obtain ⟨trailing, -, h⟩ := bind_eq_ok.mp h
  obtain ⟨offsets, hoffsets, h⟩ := bind_eq_ok.mp h
  rw [← Except.ok.inj h]
  have hlength := (mapM_eq_ok.mp hoffsets).length_eq
  rw [List.length_range] at hlength
  exact hlength.symm

/-- What stretches has the sizes that were asked for. -/
theorem sizes_of_broadcastTo {tensor wide : Tensor α} {sizes : Sizes}
    (h : broadcastTo tensor sizes = .ok wide) : wide.sizes = sizes := by
  by_cases hstretches : Stretches tensor.sizes sizes
  · have hanswers := @answers_broadcastTo _ tensor sizes hstretches
    rw [h] at hanswers
    exact hanswers
  · obtain ⟨failure, hfailure⟩ := broadcastTo_refuses hstretches
    rw [h] at hfailure
    cases hfailure

/-- **`Overwrites`** — what a put leaves: the sizes are those of the tensor it starts from, elements
that are not picked stay as they are, and a picked one holds the value of its last pick or, where
values accumulate, its own value with those of all its picks added one after the other. -/
structure Overwrites (accumulate : Bool) (input : Tensor Float32) (offsets : List Nat)
    (values : List Float32) (output : Tensor Float32) : Prop where
  sizes : output.sizes = input.sizes
  others : ∀ offset, offset ∉ offsets → output.data[offset]? = input.data[offset]?
  replaced : accumulate = false → ∀ offset ∈ offsets,
    ∃ place value, LastPick offsets offset place ∧ values[place]? = some value ∧
      output.data[offset]? = some value
  accumulated : accumulate = true → ∀ offset ∈ offsets,
    ∃ old, input.data[offset]? = some old ∧
      output.data[offset]? = some ((writtenTo offset (offsets.zip values)).foldl (· + ·) old)

/-- What a put writes, for each of the two ways to write. -/
theorem overwrites_of_writeAll {accumulate : Bool} {input output : Tensor Float32}
    {offsets : List Nat} {values : List Float32} (hcount : offsets.length = values.length)
    (hsizes : output.sizes = input.sizes)
    (h : writeAll (fun old new => if accumulate then old + new else new) input.data
      (offsets.zip values) = .ok output.data) :
    Overwrites accumulate input offsets values output := by
  have hreads := writeAll_reads h
  refine ⟨hsizes, ?_, ?_, ?_⟩
  · intro offset hother
    rw [hreads offset, writtenTo_zip_of_not_mem hother]
    exact Option.map_id'
  all_goals
    intro haccumulate offset hoffset
    obtain ⟨place, hpick⟩ := exists_lastPick hoffset
    have hplace : place < offsets.length := (List.getElem?_eq_some_iff.mp hpick.1).1
    have hvalue : values[place]? = some values[place] := List.getElem?_eq_getElem _
    -- The values are as many as the picks, so that a picked offset is written to and is there.
    have hentry : (offset, values[place]) ∈ offsets.zip values := by
      rw [List.mem_iff_getElem?]
      exact ⟨place, List.getElem?_zip_eq_some.mpr ⟨hpick.1, hvalue⟩⟩
    have hlt : offset < input.data.size := writeAll_answers.mp ⟨_, h⟩ _ hentry
    have hread := hreads offset
    rw [Array.getElem?_eq_getElem hlt, Option.map_some] at hread
  · obtain ⟨before, hbefore⟩ := writtenTo_zip_lastPick hpick hvalue
    refine ⟨place, values[place], hpick, hvalue, ?_⟩
    rw [hread, hbefore, List.foldl_append, haccumulate]
    rfl
  · refine ⟨input.data[offset], Array.getElem?_eq_getElem hlt, ?_⟩
    rw [hread, haccumulate]
    rfl

/-- **What was put is picked again**, if no element is picked twice. -/
theorem index_of_overwrites {input output wide : Tensor Float32}
    {indices : List (Option (Tensor Int))} {picked : Picked}
    (hpicked : pickedElements input.sizes indices = .ok picked) (hwide : wide.sizes = picked.sizes)
    (hnodup : picked.offsets.Nodup)
    (h : Overwrites false input picked.offsets wide.data.toList output) :
    index output indices = .ok wide := by
  have hcount := length_of_pickedElements hpicked
  have hdata : (picked.offsets.mapM (Checked.fetch output.data) : OpResult (List Float32)) =
      .ok wide.data.toList := by
    rw [mapM_eq_ok, List.forall₂_iff_get]
    have hlength : picked.offsets.length = wide.data.toList.length := by
      rw [hcount, Array.length_toList, wide.size_data, hwide]
    refine ⟨hlength, ?_⟩
    intro place hplace hplace'
    have hpick : picked.offsets[place]? = some picked.offsets[place] :=
      List.getElem?_eq_getElem hplace
    obtain ⟨last, value, hlast, hvalue, hread⟩ :=
      h.replaced rfl _ (List.mem_of_getElem? hpick)
    have hsame : place = last :=
      (List.getElem?_inj hplace hnodup).mp (hpick.trans hlast.1.symm)
    rw [← hsame, List.getElem?_eq_getElem hplace'] at hvalue
    obtain ⟨hlt, hget⟩ := Array.getElem?_eq_some_iff.mp hread
    rw [List.get_eq_getElem, List.get_eq_getElem, Checked.fetch_of_lt hlt, hget,
      Option.some.inj hvalue]
  unfold index
  rw [h.sizes, hpicked, ok_bind, hdata, ok_bind]
  exact Tensor.ofData_eq_ok.mpr ⟨hwide, rfl⟩

/-- **A put writes exactly the elements that its index tensors pick.**  A call that answers has
stretched its values over the picked elements; the answer is the tensor it was given but for those.
Without accumulation and where no element is picked twice, picking with the same index tensors from
the answer gives the stretched values back. -/
theorem indexPut_writes_picked {optional : Bool} {bound : TensorArgs}
    {returned : Returned RealTensor} (h : indexPutOf optional bound = .ok returned) :
    ∃ input values accumulate indices picked wide output,
      floatArg bound "self" = .ok input ∧ floatArg bound "values" = .ok values ∧
      bound.bool "accumulate" = .ok accumulate ∧ indexTensors bound optional = .ok indices ∧
      pickedElements input.sizes indices = .ok picked ∧
      broadcastTo values picked.sizes = .ok wide ∧ wide.sizes = picked.sizes ∧
      picked.offsets.length = wide.data.size ∧
      returned = .one (.float output) ∧
      Overwrites accumulate input picked.offsets wide.data.toList output ∧
      (accumulate = false → picked.offsets.Nodup → ∀ read, floatArg read "self" = .ok output →
        indexTensors read true = .ok indices → indexOf read = .ok (.one (.float wide))) := by
  unfold indexPutOf at h
  obtain ⟨input, hinput, h⟩ := bind_eq_ok.mp h
  obtain ⟨values, hvalues, h⟩ := bind_eq_ok.mp h
  obtain ⟨accumulate, haccumulate, h⟩ := bind_eq_ok.mp h
  obtain ⟨indices, hindices, h⟩ := bind_eq_ok.mp h
  obtain ⟨output, hput, h⟩ := bind_eq_ok.mp h
  unfold indexPut at hput
  obtain ⟨picked, hpicked, hput⟩ := bind_eq_ok.mp hput
  obtain ⟨wide, hwide, hput⟩ := bind_eq_ok.mp hput
  obtain ⟨data, hwritten, hput⟩ := bind_eq_ok.mp hput
  obtain ⟨hsizes, rfl⟩ := Tensor.ofData_eq_ok.mp hput
  have hstretched := sizes_of_broadcastTo hwide
  have hcount : picked.offsets.length = wide.data.size := by
    rw [length_of_pickedElements hpicked, wide.size_data, hstretched]
  have hoverwrites : Overwrites accumulate input picked.offsets wide.data.toList output :=
    overwrites_of_writeAll (by rw [hcount, Array.length_toList]) hsizes hwritten
  refine ⟨input, values, accumulate, indices, picked, wide, output, hinput, hvalues,
    lift_eq_ok.mp haccumulate, hindices, hpicked, hwide, hstretched, hcount,
    (Except.ok.inj h).symm, hoverwrites, ?_⟩
  rintro rfl hnodup read hself hsame
  have hindex := index_of_overwrites hpicked hstretched hnodup hoverwrites
  unfold indexOf
  rw [hself, ok_bind, hsame, ok_bind, hindex]
  rfl

/-- One number is put to both ends of a vector, the second of them counted from the end, and is
picked from there. -/
theorem indexPut_writes_picked_ends :
    let indices : Arg RealTensor := .list [.tensor (.int (Tensor.vector [0, -1]))]
    let put : TensorArgs := { values := [
      ("self", .tensor (.float (Tensor.vector [1, 2, 3]))), ("indices", indices),
      ("values", .tensor (.float (Tensor.scalar 7))), ("accumulate", .bool false)] }
    let read : TensorArgs := { values := [
      ("self", .tensor (.float (Tensor.vector [7, 2, 7]))), ("indices", indices)] }
    indexPutOf true put = .ok (.one (.float (Tensor.vector [7, 2, 7]))) ∧
      Overwrites false (Tensor.vector [1, 2, 3]) [0, 2] [7, 7] (Tensor.vector [7, 2, 7]) ∧
      indexOf read = .ok (.one (.float (Tensor.vector [7, 7]))) := by
  intro indices put read
  have hsizes : (Tensor.vector [7, 2, 7] : Tensor Float32).sizes = [3] := rfl
  have hwritten : indexPut (fun old new => if false then old + new else new)
      (Tensor.vector [1, 2, 3]) [some (Tensor.vector [0, -1])] (Tensor.scalar (7 : Float32)) =
      .ok (Tensor.vector [7, 2, 7]) :=
    bind_eq_ok.mpr ⟨{ sizes := [2], offsets := [0, 2] }, rfl,
      bind_eq_ok.mpr ⟨Tensor.vector [7, 7], rfl,
        bind_eq_ok.mpr ⟨#[7, 2, 7], rfl, Tensor.ofData_eq_ok.mpr ⟨hsizes.trans rfl, rfl⟩⟩⟩⟩
  have hput : indexPutOf true put = .ok (.one (.float (Tensor.vector [7, 2, 7]))) :=
    bind_eq_ok.mpr ⟨_, rfl, bind_eq_ok.mpr ⟨_, rfl, bind_eq_ok.mpr ⟨_, rfl,
      bind_eq_ok.mpr ⟨_, rfl, bind_eq_ok.mpr ⟨_, hwritten, rfl⟩⟩⟩⟩⟩
  obtain ⟨input, values, accumulate, tensors, picked, wide, output, hinput, hvalues, haccumulate,
    hindices, hpicked, hwide, -, -, houtput, hoverwrites, hback⟩ := indexPut_writes_picked hput
  obtain rfl : Tensor.vector [1, 2, 3] = input := Except.ok.inj hinput
  obtain rfl : Tensor.scalar 7 = values := Except.ok.inj hvalues
  obtain rfl : false = accumulate := Except.ok.inj haccumulate
  obtain rfl : [some (Tensor.vector [0, -1])] = tensors := Except.ok.inj hindices
  obtain rfl : { sizes := [2], offsets := [0, 2] } = picked := Except.ok.inj hpicked
  obtain rfl : Tensor.vector [7, 7] = wide := Except.ok.inj hwide
  obtain rfl : Tensor.vector [7, 2, 7] = output := by
    injection houtput with houtput
    injection houtput
  exact ⟨hput, hoverwrites, hback rfl (by decide) read rfl rfl⟩

end OpShape.Operator
