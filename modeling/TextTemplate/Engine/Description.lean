import TextTemplate.Engine
import TextTemplate.Text.Quoted

/-!
# Descriptions

Short texts that show the state of an engine and of a template.
-/

namespace TextTemplate.Engine

def describe (e : Engine) : String :=
  s!"Engine \x7b max_recursion_depth: {e.maxDepth}, cache_capacity: {e.capacity}, " ++
    s!"cached: {e.cached} \x7d"

def describeTemplate (e : Engine) (t : Template) : String :=
  let source := String.ofList (Text.Quoted.encode t.source.toList)
  s!"Template \x7b engine: {e.describe}, source: {source}, .. \x7d"

end TextTemplate.Engine
