import CoverControl.Percent

/-!
# Templates

The hub owns the language of templates; what a cover sees is the function that a template compiles
to. A value template turns a payload from a state or position topic into the text to interpret. A
position template turns a target into the payload to publish, and no scale is applied to it.
-/

namespace CoverControl

structure ValueTemplate where
  render : String → Except TemplateFault String

structure PositionTemplate where
  render : Percent → Except TemplateFault String

/-- How a value template shows: its function is not looked into. -/
def ValueTemplate.describe (_ : ValueTemplate) : String := "ValueTemplate(..)"

def PositionTemplate.describe (_ : PositionTemplate) : String := "PositionTemplate(..)"

end CoverControl
