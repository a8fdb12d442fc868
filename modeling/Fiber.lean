import Fiber.Value
import Fiber.App
import Fiber.Group
import Fiber.Use
import Fiber.Setup
import Fiber.New
import Fiber.Listen
import Fiber.Middleware
import Fiber.Prefork
import Fiber.Lifecycle
