/-
# Relation definitions

How the rows of one class belong to the rows of another.  In each case a column
of the related side (or of the table in between) equals a column of the parent:

| kind | equation |
|---|---|
| has one, has many | `related.foreignKey = parent.localKey` |
| belongs to | `related.ownerKey = parent.foreignKey` |
| belongs to many | `pivot.relatedPivotKey = related.relatedKey`, `pivot.foreignPivotKey = parent.parentKey` |
| has one through | `through.secondLocalKey = related.secondKey`, `through.firstKey = parent.localKey` |
-/

namespace EntityQuery

/-- A relation as it is declared on a class. -/
inductive RelationDef where
  | hasOne (related foreignKey localKey : String)
  | hasMany (related foreignKey localKey : String)
  | belongsTo (related : Option String) (foreignKey ownerKey : String)
  | belongsToMany (related pivotTable foreignPivotKey relatedPivotKey parentKey relatedKey : String)
  | hasOneThrough (related through firstKey secondKey localKey secondLocalKey : String)
  deriving DecidableEq, Repr

namespace RelationDef

/-- The name of the kind of a relation. -/
def kindName : RelationDef → String
  | .hasOne _ _ _ => "HasOne"
  | .hasMany _ _ _ => "HasMany"
  | .belongsTo _ _ _ => "BelongsTo"
  | .belongsToMany _ _ _ _ _ _ => "BelongsToMany"
  | .hasOneThrough _ _ _ _ _ _ => "HasOneThrough"

/-- A pivot relation on the column `id` of both sides. -/
def pivot (related pivotTable foreignPivotKey relatedPivotKey : String) : RelationDef :=
  .belongsToMany related pivotTable foreignPivotKey relatedPivotKey "id" "id"

/-- A through relation on the column `id` of the parent and of the class in between. -/
def viaClass (related through firstKey secondKey : String) : RelationDef :=
  .hasOneThrough related through firstKey secondKey "id" "id"

/-- Other key columns: of the parent and of the related side where a relation has both. -/
def withKeys (d : RelationDef) (parent relatedSide : String) : RelationDef :=
  match d with
  | .hasOne related foreignKey _ => .hasOne related foreignKey parent
  | .hasMany related foreignKey _ => .hasMany related foreignKey parent
  | .belongsTo related foreignKey _ => .belongsTo related foreignKey relatedSide
  | .belongsToMany related table foreign own _ _ =>
    .belongsToMany related table foreign own parent relatedSide
  | .hasOneThrough related through first second _ _ =>
    .hasOneThrough related through first second parent relatedSide

/-- The related class as it is declared. -/
def related? : RelationDef → Option String
  | .hasOne related _ _ => some related
  | .hasMany related _ _ => some related
  | .belongsTo related _ _ => related
  | .belongsToMany related _ _ _ _ _ => some related
  | .hasOneThrough related _ _ _ _ _ => some related

/-- Whether the relation gives at most one entity. -/
def isSingle : RelationDef → Bool
  | .hasMany _ _ _ => false
  | .belongsToMany _ _ _ _ _ _ => false
  | _ => true

end RelationDef
end EntityQuery
