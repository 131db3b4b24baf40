import QueryGateway.Proofs.Sql.Taking.Basic
import QueryGateway.Sql.DataType

/-!
# What the readers of names and data types take

None of them takes a semicolon.
-/

namespace QueryGateway.Sql

-- A long reader makes a large instance; it is found at once all the same.
set_option synthInstance.maxSize 100000

/-! ## Names -/

instance advances_identifier : Advances identifier := by
  refine .nextThen (fun l => ?_) fun _ _ _ => ⟨_, rfl⟩
  split <;> infer_instance

instance advances_name : Advances name := by unfold name; infer_instance

instance advances_nameParts : Advances nameParts := by unfold nameParts; infer_instance

instance advances_objectName : Advances objectName := by unfold objectName; infer_instance

instance advances_nameList : Advances nameList := by unfold nameList; infer_instance

/-! ## Literal values -/

instance advances_placeholderName (sign : Lexeme) : Advances (placeholderName sign) := by
  unfold placeholderName
  split
  · infer_instance
  · refine .nextThen (fun l => ?_) fun _ _ _ => ⟨_, rfl⟩
    split <;> infer_instance

instance advances_value : Advances value := by
  refine .nextThen (fun l => ?_) fun _ _ _ => ⟨_, rfl⟩
  split
  · infer_instance
  · split <;> infer_instance

instance advances_literalString : Advances literalString := by
  refine .nextThen (fun l => ?_) fun _ _ _ => ⟨_, rfl⟩
  split <;> infer_instance

instance advances_literalUint : Advances literalUint := by
  refine .nextThen (fun l => ?_) fun _ _ _ => ⟨_, rfl⟩
  split
  · split <;> infer_instance
  · infer_instance

/-! ## Arguments of data types -/

instance advances_signedInteger : Advances signedInteger := by
  unfold signedInteger
  refine .andThen fun negative => ?_
  extract_lets digits
  have : ∀ u, Advances (digits u) := fun _ => by
    refine .peekThen fun s => ?_
    split
    · next h => exact .nextOf h nofun fun _ => by split <;> infer_instance
    · exact Advances.start s
  clear_value digits
  infer_instance

instance advances_optionalArgument {p : Parser String} [Advances p] : Advances (optionalArgument p) := by
  unfold optionalArgument; infer_instance

instance advances_optionalPrecision : Advances optionalPrecision := by unfold optionalPrecision; infer_instance

instance advances_optionalScale : Advances optionalScale := by unfold optionalScale; infer_instance

instance advances_optionalLength : Advances optionalLength := by unfold optionalLength; infer_instance

instance advances_optionalByteLength : Advances optionalByteLength := by unfold optionalByteLength; infer_instance

instance advances_typeArguments (arguments : TypeArguments) : Advances arguments.read := by
  cases arguments <;> unfold TypeArguments.read <;> infer_instance

/-! ## Data types -/

instance advances_optionalTimeZone : Advances optionalTimeZone := by unfold optionalTimeZone; infer_instance

instance advances_intervalFields : Advances intervalFields := by unfold intervalFields; infer_instance

instance advances_plainString (what : String) : Advances (plainString what) := by
  refine .nextThen (fun l => ?_) fun _ _ _ => ⟨_, rfl⟩
  split <;> infer_instance

instance advances_typeModifiers : Advances typeModifiers := by
  unfold typeModifiers
  refine .seq (.loop fun acc => ?_) fun _ => inferInstance
  refine .nextThen (fun l => ?_) fun _ _ _ => ⟨_, rfl⟩
  split <;> infer_instance

instance advances_customType : Advances customType := by unfold customType; infer_instance

instance advances_enumMember : Advances enumMember := by unfold enumMember; infer_instance

instance advances_closingAngle (taken : SecondBracket) : Advances (closingAngle taken) := by
  unfold closingAngle; infer_instance

instance advances_characterType (word : String) : Advances (characterType word) := by
  unfold characterType; infer_instance

instance advances_unsignedSuffix : Advances unsignedSuffix := by unfold unsignedSuffix; infer_instance

instance advances_arraySuffix (element : DataType) : Advances (arraySuffix element) := by
  unfold arraySuffix; infer_instance

instance advances_tableColumns {inner : Parser DataType} [Advances inner] : Advances (tableColumns inner) := by
  unfold tableColumns; infer_instance

/-- A word that starts a type of several words is taken as the first of them. -/
theorem advancesAt_compoundType {s : Input} {w : Word} (h : s.rest.head?.map Lexeme.token = some (.word w))
    (keyword : String) : AdvancesAt s (compoundType keyword) := by
  unfold compoundType
  split
  -- `ANY` without `TYPE` behind it is left where it stands, and so is every other word.
  case h_16 | h_17 => exact Advances.start s
  all_goals exact .nextWord h fun _ => inferInstance

instance advances_dataTypeN : ∀ depth, Advances (dataTypeN depth)
  | 0 => .throw _
  | depth + 1 => by
    have inner : Advances (dataTypeN depth) := advances_dataTypeN depth
    unfold dataTypeN
    refine .peekThen fun s => ?_
    split
    · next w h =>
      split
      · exact .nextWord h fun _ => inferInstance
      · split
        · exact .nextWord h fun _ => inferInstance
        · split
          · exact .nextWord h fun _ => inferInstance
          · exact (advancesAt_compoundType h _).bind fun found => by split <;> infer_instance
    · exact Advances.start s

instance advances_dataType : Advances dataType := by unfold dataType; infer_instance

end QueryGateway.Sql
