import FormBuilder.Field.Basic
/-! Fields written out as data: on the wire without what is unset, plainly with every attribute. -/
namespace FormBuilder

namespace Kind

def attributes : Kind → List (Key × Value)
  | longtext help => [(.helpText,.ofOption .str help)]
  | number least most => [(.min,.ofOption .float least),(.max,.ofOption .float most)]
  | checkbox options | radio options | dropdown options | ranking options => [(.options,.texts options)]
  | rating scale => [(.maxRating,.ofNat scale.top)]
  | file types maxSize => [(.fileTypes,.texts types),(.maxFileSize,.ofOption .ofNat maxSize)]
  | matrix rows columns => [(.rows,.texts rows),(.columns,.texts columns)]
  | pictureChoice options images => [(.options,.texts options),(.imageUrls,.texts images)]
  | _ => []

end Kind

def Common.attributes (s : Spelling) (c : Common) : List (Key × Value) :=
  [(.required,.bool c.required),(.placeholder,.ofOption .str c.placeholder),
    (.condition,.ofOption (Condition.write s) c.condition)]

namespace Field

def config (s : Spelling) (f : Field) : Object := s.entries (f.common.attributes s ++ f.kind.attributes)

def entries (s : Spelling) (f : Field) : Object :=
  s.entries [(.id,.str f.id),(.persistedId,.ofOption .str f.persistedId),(.label,.str f.label),
    (.order,.ofNat f.order),(.config,.object (f.config s)),(.type,.str f.type.name)]

def toWire (f : Field) : Value := .object (f.entries .wire)

def wires (fields : List Field) : Value := .list (fields.map toWire)

end Field
end FormBuilder
