import ExprLang.Value.Basic

/-!
# Values of data

How data of other types become values: signed integers of every width become `int`, unsigned ones `uint`, both
widths of floating-point numbers `float`. Nothing is lost, since each type fits into its kind.
-/

namespace ExprLang

/-- A type whose data are values. -/
class ToValue (α : Type) where
  toValue : α → Value

export ToValue (toValue)

instance : ToValue Value := ⟨id⟩
instance : ToValue Bool := ⟨.bool⟩
instance : ToValue Int8 := ⟨fun n => .int n.toInt64⟩
instance : ToValue Int16 := ⟨fun n => .int n.toInt64⟩
instance : ToValue Int32 := ⟨fun n => .int n.toInt64⟩
instance : ToValue Int64 := ⟨.int⟩
instance : ToValue UInt8 := ⟨fun n => .uint n.toUInt64⟩
instance : ToValue UInt16 := ⟨fun n => .uint n.toUInt64⟩
instance : ToValue UInt32 := ⟨fun n => .uint n.toUInt64⟩
instance : ToValue UInt64 := ⟨.uint⟩
instance : ToValue USize := ⟨fun n => .uint n.toUInt64⟩
instance : ToValue Float := ⟨.float⟩
instance : ToValue Float32 := ⟨fun f => .float f.toFloat⟩
instance : ToValue String := ⟨.string⟩
instance : ToValue (List UInt8) := ⟨.bytes⟩
instance : ToValue (List Value) := ⟨.list⟩
instance : ToValue (KeyMap Value) := ⟨.map⟩
instance : ToValue Key := ⟨Key.toValue⟩

end ExprLang
