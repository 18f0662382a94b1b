-- SUMMARY: The sample that a site shows without data of its own.
import Docsmith.Json.Read
import Docsmith.Value.Access

/-!
# Sample data

The documentation data of a small project with users, events and settings. Modules, pages and
settings stand in a JSON text; the classes, functions and endpoints are those of the modules.
-/

namespace Docsmith.Site

/-- The modules, pages and settings of the sample, written as JSON. -/
def sampleText : String := String.join [
  "\x7b\"modules\":[\x7b\"name\":\"app\",\"full_path\":\"app\",",
  "\"file_path\":\"C:\\\\Users\\\\Juan\\\\Documents\\\\GitHub\\\\CacaoDocs\\\\docs\\\\app.py\",",
  "\"docstring\":\"Sample FastAPI application for testing CacaoDocs doc types.\",\"classes\":[],",
  "\"functions\":[\x7b\"name\":\"get_user\",\"module\":\"app\",\"full_path\":\"app.get_user\",",
  "\"signature\":\"(user_id: int, include: str=None)\",\"docstring\":\x7b\"summary\":\"Get a user ",
  "by their ID.\",\"description\":\"\",\"doc_type\":\"api\",\"args\":[],\"returns\":null,",
  "\"raises\":[],\"examples\":[\"    >>> GET /users/42\\n    \x7b\\\"id\\\": 42, \\\"name\\\": ",
  "\\\"Alice\\\", \\\"email\\\": \\\"alice@example.com\\\"\x7d\"],\"attributes\":[],\"notes\":[],",
  "\"http_method\":\"GET\",\"path\":\"/users/\x7buser_id\x7d\",",
  "\"path_params\":[\x7b\"name\":\"user_id\",\"type\":\"int\",\"description\":\"The user's unique ",
  "identifier.\",\"default\":null,\"required\":null\x7d],",
  "\"query_params\":[\x7b\"name\":\"include\",\"type\":\"str\",\"description\":\"Comma-separated ",
  "list of fields to include.\",\"default\":null,\"required\":null\x7d],\"request_body\":[],",
  "\"responses\":[\x7b\"status_code\":200,\"description\":\"\",\"fields\":[\x7b\"name\":\"id\",",
  "\"type\":\"int\",\"description\":\"The user ID.\"\x7d,\x7b\"name\":\"name\",\"type\":\"str\",",
  "\"description\":\"The user's full name.\"\x7d,\x7b\"name\":\"email\",\"type\":\"str\",",
  "\"description\":\"The user's email address.\"\x7d]\x7d,\x7b\"status_code\":404,",
  "\"description\":\"\",\"fields\":[\x7b\"name\":\"detail\",\"type\":\"str\",",
  "\"description\":\"User not found error message.\"\x7d]\x7d],\"headers\":[]\x7d,",
  "\"is_async\":false,\"source\":\"def get_user(user_id: int, include: str = None):\\n    ",
  "\\\"\\\"\\\"Get a user by their ID.\\n\\n    Type: api\\n\\n    Method: GET\\n    Path: ",
  "/users/\x7buser_id\x7d\\n\\n    Path Params:\\n        user_id (int): The user's unique ",
  "identifier.\\n\\n    Query Params:\\n        include (str): Comma-separated list of fields to ",
  "include.\\n\\n    Response (200):\\n        id (int): The user ID.\\n        name (str): The ",
  "user's full name.\\n        email (str): The user's email address.\\n\\n    Response (404):\\n ",
  "       detail (str): User not found error message.\\n\\n    Examples:\\n        >>> GET ",
  "/users/42\\n        \x7b\\\"id\\\": 42, \\\"name\\\": \\\"Alice\\\", \\\"email\\\": ",
  "\\\"alice@example.com\\\"\x7d\\n    \\\"\\\"\\\"\\n    return \x7b\\\"id\\\": user_id, ",
  "\\\"name\\\": \\\"Alice\\\", \\\"include\\\": include\x7d\",\"line_number\":9,",
  "\"decorators\":[\"app.get\"],\"calls\":[\"app.get\"],\"doc_type\":\"api\"\x7d,",
  "\x7b\"name\":\"create_user\",\"module\":\"app\",\"full_path\":\"app.create_user\",",
  "\"signature\":\"(name: str, email: str)\",\"docstring\":\x7b\"summary\":\"Create a new user ",
  "account.\",\"description\":\"\",\"doc_type\":\"api\",\"args\":[],\"returns\":null,",
  "\"raises\":[],\"examples\":[],\"attributes\":[],\"notes\":[],\"http_method\":\"POST\",",
  "\"path\":\"/users\",\"path_params\":[],\"query_params\":[],",
  "\"request_body\":[\x7b\"name\":\"name\",\"type\":\"str\",\"description\":\"The user's full ",
  "name.\",\"default\":null,\"required\":true\x7d,\x7b\"name\":\"email\",\"type\":\"str\",",
  "\"description\":\"The user's email address.\",\"default\":null,\"required\":true\x7d],",
  "\"responses\":[\x7b\"status_code\":201,\"description\":\"\",\"fields\":[\x7b\"name\":\"id\",",
  "\"type\":\"int\",\"description\":\"The newly created user ID.\"\x7d,\x7b\"name\":\"name\",",
  "\"type\":\"str\",\"description\":\"The user's name.\"\x7d]\x7d,\x7b\"status_code\":400,",
  "\"description\":\"\",\"fields\":[\x7b\"name\":\"detail\",\"type\":\"str\",",
  "\"description\":\"Validation error message.\"\x7d]\x7d],\"headers\":[]\x7d,\"is_async\":true,",
  "\"source\":\"async def create_user(name: str, email: str):\\n    \\\"\\\"\\\"Create a new user ",
  "account.\\n\\n    Type: api\\n\\n    Method: POST\\n    Path: /users\\n\\n    Request Body:\\n ",
  "       name (str, required): The user's full name.\\n        email (str, required): The user's ",
  "email address.\\n\\n    Response (201):\\n        id (int): The newly created user ID.\\n      ",
  "  name (str): The user's name.\\n\\n    Response (400):\\n        detail (str): Validation ",
  "error message.\\n    \\\"\\\"\\\"\\n    return \x7b\\\"id\\\": 1, \\\"name\\\": name, ",
  "\\\"email\\\": email\x7d\",\"line_number\":39,\"decorators\":[\"app.post\"],",
  "\"calls\":[\"app.post\"],\"doc_type\":\"api\"\x7d,\x7b\"name\":\"delete_user\",",
  "\"module\":\"app\",\"full_path\":\"app.delete_user\",\"signature\":\"(user_id: int)\",",
  "\"docstring\":\x7b\"summary\":\"Delete a user permanently.\",\"description\":\"\",",
  "\"doc_type\":\"api\",\"args\":[],\"returns\":null,\"raises\":[],\"examples\":[],",
  "\"attributes\":[],\"notes\":[],\"http_method\":\"DELETE\",\"path\":\"/users/\x7buser_id\x7d\",",
  "\"path_params\":[\x7b\"name\":\"user_id\",\"type\":\"int\",\"description\":\"The user to ",
  "delete.\",\"default\":null,\"required\":null\x7d],\"query_params\":[],\"request_body\":[],",
  "\"responses\":[\x7b\"status_code\":204,\"description\":\"\",\"fields\":[]\x7d,",
  "\x7b\"status_code\":404,\"description\":\"\",\"fields\":[\x7b\"name\":\"detail\",",
  "\"type\":\"str\",\"description\":\"User not found.\"\x7d]\x7d],\"headers\":[]\x7d,",
  "\"is_async\":false,\"source\":\"def delete_user(user_id: int):\\n    \\\"\\\"\\\"Delete a user ",
  "permanently.\\n\\n    Type: api\\n\\n    Method: DELETE\\n    Path: ",
  "/users/\x7buser_id\x7d\\n\\n    Path Params:\\n        user_id (int): The user to ",
  "delete.\\n\\n    Response (204):\\n\\n    Response (404):\\n        detail (str): User not ",
  "found.\\n    \\\"\\\"\\\"\\n    return \x7b\\\"deleted\\\": user_id\x7d\",\"line_number\":62,",
  "\"decorators\":[\"app.delete\"],\"calls\":[\"app.delete\"],\"doc_type\":\"api\"\x7d]\x7d,",
  "\x7b\"name\":\"config\",\"full_path\":\"config\",",
  "\"file_path\":\"C:\\\\Users\\\\Juan\\\\Documents\\\\GitHub\\\\CacaoDocs\\\\docs\\\\config.py\",",
  "\"docstring\":\"Application configuration.\",\"classes\":[],",
  "\"functions\":[\x7b\"name\":\"load_settings\",\"module\":\"config\",",
  "\"full_path\":\"config.load_settings\",\"signature\":\"()\",",
  "\"docstring\":\x7b\"summary\":\"Load application settings from environment.\",",
  "\"description\":\"\",\"doc_type\":\"config\",\"args\":[],\"returns\":null,\"raises\":[],",
  "\"examples\":[],\"attributes\":[],\"notes\":[],\"config_fields\":[\x7b\"name\":\"DEBUG\",",
  "\"type\":\"bool\",\"description\":\"Enable debug mode for development.\",\"default\":\"False\",",
  "\"required\":false,\"env_var\":\"\"\x7d,\x7b\"name\":\"SECRET_KEY\",\"type\":\"str\",",
  "\"description\":\"Secret key for signing tokens.\",\"default\":null,\"required\":true,",
  "\"env_var\":\"APP_SECRET_KEY\"\x7d,\x7b\"name\":\"DATABASE_URL\",\"type\":\"str\",",
  "\"description\":\"PostgreSQL connection string.\",\"default\":null,\"required\":true,",
  "\"env_var\":\"DATABASE_URL\"\x7d,\x7b\"name\":\"PORT\",\"type\":\"int\",\"description\":\"Port ",
  "to listen on.\",\"default\":\"8000\",\"required\":false,\"env_var\":\"\"\x7d,",
  "\x7b\"name\":\"LOG_LEVEL\",\"type\":\"str\",\"description\":\"Logging level (DEBUG, INFO, ",
  "WARNING, ERROR).\",\"default\":\"INFO\",\"required\":false,\"env_var\":\"\"\x7d]\x7d,",
  "\"is_async\":false,\"source\":\"def load_settings():\\n    \\\"\\\"\\\"Load application ",
  "settings from environment.\\n\\n    Type: config\\n\\n    Fields:\\n        DEBUG (bool, ",
  "default=False): Enable debug mode for development.\\n        SECRET_KEY (str, required, ",
  "env=APP_SECRET_KEY): Secret key for signing tokens.\\n        DATABASE_URL (str, required, ",
  "env=DATABASE_URL): PostgreSQL connection string.\\n        PORT (int, default=8000): Port to ",
  "listen on.\\n        LOG_LEVEL (str, default=INFO): Logging level (DEBUG, INFO, WARNING, ",
  "ERROR).\\n    \\\"\\\"\\\"\\n    pass\",\"line_number\":4,\"decorators\":[],\"calls\":[],",
  "\"doc_type\":\"config\"\x7d]\x7d,\x7b\"name\":\"events\",\"full_path\":\"events\",",
  "\"file_path\":\"C:\\\\Users\\\\Juan\\\\Documents\\\\GitHub\\\\CacaoDocs\\\\docs\\\\events.py\",",
  "\"docstring\":\"Application event handlers.\",\"classes\":[],",
  "\"functions\":[\x7b\"name\":\"on_user_signup\",\"module\":\"events\",",
  "\"full_path\":\"events.on_user_signup\",\"signature\":\"(user_data: dict)\",",
  "\"docstring\":\x7b\"summary\":\"Fires when a new user completes registration.\",",
  "\"description\":\"\",\"doc_type\":\"event\",\"args\":[],\"returns\":null,\"raises\":[],",
  "\"examples\":[\"    >>> \x7b\\\"user_id\\\": 42, \\\"email\\\": \\\"new@user.com\\\", ",
  "\\\"plan\\\": \\\"pro\\\"\x7d\"],\"attributes\":[],\"notes\":[],\"trigger\":\"When a user ",
  "submits the signup form and passes validation.\",\"payload\":[\x7b\"name\":\"user_id\",",
  "\"type\":\"int\",\"description\":\"The newly created user ID.\"\x7d,\x7b\"name\":\"email\",",
  "\"type\":\"str\",\"description\":\"The user's email address.\"\x7d,\x7b\"name\":\"plan\",",
  "\"type\":\"str\",\"description\":\"Selected subscription plan.\"\x7d]\x7d,\"is_async\":false,",
  "\"source\":\"def on_user_signup(user_data: dict):\\n    \\\"\\\"\\\"Fires when a new user ",
  "completes registration.\\n\\n    Type: event\\n\\n    Trigger: When a user submits the signup ",
  "form and passes validation.\\n\\n    Payload:\\n        user_id (int): The newly created user ",
  "ID.\\n        email (str): The user's email address.\\n        plan (str): Selected ",
  "subscription plan.\\n\\n    Examples:\\n        >>> \x7b\\\"user_id\\\": 42, \\\"email\\\": ",
  "\\\"new@user.com\\\", \\\"plan\\\": \\\"pro\\\"\x7d\\n    \\\"\\\"\\\"\\n    pass\",",
  "\"line_number\":4,\"decorators\":[],\"calls\":[],\"doc_type\":\"event\"\x7d,",
  "\x7b\"name\":\"on_payment_received\",\"module\":\"events\",",
  "\"full_path\":\"events.on_payment_received\",\"signature\":\"(payment_data: dict)\",",
  "\"docstring\":\x7b\"summary\":\"Fires when a payment is successfully processed.\",",
  "\"description\":\"\",\"doc_type\":\"event\",\"args\":[],\"returns\":null,\"raises\":[],",
  "\"examples\":[],\"attributes\":[],\"notes\":[],\"trigger\":\"After Stripe webhook confirms ",
  "payment_intent.succeeded.\",\"payload\":[\x7b\"name\":\"payment_id\",\"type\":\"str\",",
  "\"description\":\"Stripe payment intent ID.\"\x7d,\x7b\"name\":\"amount\",\"type\":\"int\",",
  "\"description\":\"Amount in cents.\"\x7d,\x7b\"name\":\"currency\",\"type\":\"str\",",
  "\"description\":\"Three-letter currency code.\"\x7d,\x7b\"name\":\"user_id\",\"type\":\"int\",",
  "\"description\":\"The paying user's ID.\"\x7d]\x7d,\"is_async\":false,\"source\":\"def ",
  "on_payment_received(payment_data: dict):\\n    \\\"\\\"\\\"Fires when a payment is ",
  "successfully processed.\\n\\n    Type: event\\n\\n    Trigger: After Stripe webhook confirms ",
  "payment_intent.succeeded.\\n\\n    Payload:\\n        payment_id (str): Stripe payment intent ",
  "ID.\\n        amount (int): Amount in cents.\\n        currency (str): Three-letter currency ",
  "code.\\n        user_id (int): The paying user's ID.\\n    \\\"\\\"\\\"\\n    pass\",",
  "\"line_number\":22,\"decorators\":[],\"calls\":[],\"doc_type\":\"event\"\x7d]\x7d,",
  "\x7b\"name\":\"models\",\"full_path\":\"models\",",
  "\"file_path\":\"C:\\\\Users\\\\Juan\\\\Documents\\\\GitHub\\\\CacaoDocs\\\\docs\\\\models.py\",",
  "\"docstring\":\"Data models for the application.\",\"classes\":[\x7b\"name\":\"User\",",
  "\"module\":\"models\",\"full_path\":\"models.User\",\"docstring\":\x7b\"summary\":\"Represents ",
  "a user in the system.\",\"description\":\"\",\"doc_type\":\"class\",\"args\":[],",
  "\"returns\":null,\"raises\":[],\"examples\":[],\"attributes\":[\x7b\"name\":\"id\",",
  "\"type\":\"int\",\"description\":\"Unique identifier.\",\"default\":null,\"required\":null\x7d,",
  "\x7b\"name\":\"name\",\"type\":\"str\",\"description\":\"Full name.\",\"default\":null,",
  "\"required\":null\x7d,\x7b\"name\":\"email\",\"type\":\"str\",\"description\":\"Email ",
  "address.\",\"default\":null,\"required\":null\x7d,\x7b\"name\":\"is_active\",\"type\":\"bool\",",
  "\"description\":\"Whether the user account is active.\",\"default\":null,",
  "\"required\":null\x7d],\"notes\":[]\x7d,\"bases\":[],\"methods\":[\x7b\"name\":\"__init__\",",
  "\"module\":\"models\",\"signature\":\"(self, name: str, email: str, is_active: bool=True)\",",
  "\"docstring\":\x7b\"summary\":\"Initialize a new User.\",\"description\":\"\",",
  "\"doc_type\":\"function\",\"args\":[\x7b\"name\":\"name\",\"type\":\"str\",",
  "\"description\":\"The user's full name.\",\"default\":null,\"required\":null\x7d,",
  "\x7b\"name\":\"email\",\"type\":\"str\",\"description\":\"The user's email address.\",",
  "\"default\":null,\"required\":null\x7d,\x7b\"name\":\"is_active\",\"type\":\"bool\",",
  "\"description\":\"Account status. Defaults to True.\",\"default\":null,\"required\":null\x7d],",
  "\"returns\":null,\"raises\":[],\"examples\":[],\"attributes\":[],\"notes\":[]\x7d,",
  "\"is_async\":false,\"is_classmethod\":false,\"is_staticmethod\":false,\"is_property\":false,",
  "\"source\":\"def __init__(self, name: str, email: str, is_active: bool = True):\\n        ",
  "\\\"\\\"\\\"Initialize a new User.\\n\\n        Args:\\n            name (str): The user's ",
  "full name.\\n            email (str): The user's email address.\\n            is_active ",
  "(bool): Account status. Defaults to True.\\n        \\\"\\\"\\\"\\n        self.name = name\\n ",
  "       self.email = email\\n        self.is_active = is_active\",\"line_number\":14,",
  "\"decorators\":[],\"calls\":[],\"doc_type\":\"function\"\x7d,\x7b\"name\":\"deactivate\",",
  "\"module\":\"models\",\"signature\":\"(self)\",\"docstring\":\x7b\"summary\":\"Deactivate this ",
  "user account.\",\"description\":\"\",\"doc_type\":\"function\",\"args\":[],",
  "\"returns\":\x7b\"type\":\"bool\",\"description\":\"True if successfully deactivated.\"\x7d,",
  "\"raises\":[\x7b\"type\":\"ValueError\",\"description\":\"If user is already inactive.\"\x7d],",
  "\"examples\":[],\"attributes\":[],\"notes\":[]\x7d,\"is_async\":false,\"is_classmethod\":false,",
  "\"is_staticmethod\":false,\"is_property\":false,\"source\":\"def deactivate(self):\\n        ",
  "\\\"\\\"\\\"Deactivate this user account.\\n\\n        Returns:\\n            bool: True if ",
  "successfully deactivated.\\n\\n        Raises:\\n            ValueError: If user is already ",
  "inactive.\\n        \\\"\\\"\\\"\\n        if not self.is_active:\\n            raise ",
  "ValueError(\\\"User is already inactive\\\")\\n        self.is_active = False\\n        return ",
  "True\",\"line_number\":26,\"decorators\":[],\"calls\":[\"ValueError\"],",
  "\"doc_type\":\"function\"\x7d,\x7b\"name\":\"to_dict\",\"module\":\"models\",",
  "\"signature\":\"(self) -> dict\",\"docstring\":\x7b\"summary\":\"Convert user to dictionary ",
  "representation.\",\"description\":\"\",\"doc_type\":\"function\",\"args\":[],",
  "\"returns\":\x7b\"type\":\"dict\",\"description\":\"User data as a dictionary.\"\x7d,",
  "\"raises\":[],\"examples\":[\"    >>> user = User(\\\"Alice\\\", \\\"alice@example.com\\\")\\n ",
  "   >>> user.to_dict()\\n    \x7b\\\"name\\\": \\\"Alice\\\", \\\"email\\\": ",
  "\\\"alice@example.com\\\", \\\"is_active\\\": True\x7d\"],\"attributes\":[],\"notes\":[]\x7d,",
  "\"is_async\":false,\"is_classmethod\":false,\"is_staticmethod\":false,\"is_property\":false,",
  "\"source\":\"def to_dict(self) -> dict:\\n        \\\"\\\"\\\"Convert user to dictionary ",
  "representation.\\n\\n        Returns:\\n            dict: User data as a dictionary.\\n\\n     ",
  "   Examples:\\n            >>> user = User(\\\"Alice\\\", \\\"alice@example.com\\\")\\n        ",
  "    >>> user.to_dict()\\n            \x7b\\\"name\\\": \\\"Alice\\\", \\\"email\\\": ",
  "\\\"alice@example.com\\\", \\\"is_active\\\": True\x7d\\n        \\\"\\\"\\\"\\n        return ",
  "\x7b\\n            \\\"name\\\": self.name,\\n            \\\"email\\\": self.email,\\n        ",
  "    \\\"is_active\\\": self.is_active,\\n        \x7d\",\"line_number\":40,\"decorators\":[],",
  "\"calls\":[],\"doc_type\":\"function\"\x7d],\"source\":\"class User:\\n    ",
  "\\\"\\\"\\\"Represents a user in the system.\\n\\n    Attributes:\\n        id (int): Unique ",
  "identifier.\\n        name (str): Full name.\\n        email (str): Email address.\\n        ",
  "is_active (bool): Whether the user account is active.\\n    \\\"\\\"\\\"\\n\\n    def ",
  "__init__(self, name: str, email: str, is_active: bool = True):\\n        ",
  "\\\"\\\"\\\"Initialize a new User.\\n\\n        Args:\\n            name (str): The user's ",
  "full name.\\n            email (str): The user's email address.\\n            is_active ",
  "(bool): Account status. Defaults to True.\\n        \\\"\\\"\\\"\\n        self.name = name\\n ",
  "       self.email = email\\n        self.is_active = is_active\\n\\n    def ",
  "deactivate(self):\\n        \\\"\\\"\\\"Deactivate this user account.\\n\\n        Returns:\\n ",
  "           bool: True if successfully deactivated.\\n\\n        Raises:\\n            ",
  "ValueError: If user is already inactive.\\n        \\\"\\\"\\\"\\n        if not ",
  "self.is_active:\\n            raise ValueError(\\\"User is already inactive\\\")\\n        ",
  "self.is_active = False\\n        return True\\n\\n    def to_dict(self) -> dict:\\n        ",
  "\\\"\\\"\\\"Convert user to dictionary representation.\\n\\n        Returns:\\n            ",
  "dict: User data as a dictionary.\\n\\n        Examples:\\n            >>> user = ",
  "User(\\\"Alice\\\", \\\"alice@example.com\\\")\\n            >>> user.to_dict()\\n            ",
  "\x7b\\\"name\\\": \\\"Alice\\\", \\\"email\\\": \\\"alice@example.com\\\", \\\"is_active\\\": ",
  "True\x7d\\n        \\\"\\\"\\\"\\n        return \x7b\\n            \\\"name\\\": self.name,",
  "\\n            \\\"email\\\": self.email,\\n            \\\"is_active\\\": self.is_active,\\n  ",
  "      \x7d\",\"line_number\":4,\"decorators\":[],\"doc_type\":\"class\"\x7d],",
  "\"functions\":[]\x7d,\x7b\"name\":\"utils\",\"full_path\":\"utils\",",
  "\"file_path\":\"C:\\\\Users\\\\Juan\\\\Documents\\\\GitHub\\\\CacaoDocs\\\\docs\\\\utils.py\",",
  "\"docstring\":\"Utility functions.\",\"classes\":[],",
  "\"functions\":[\x7b\"name\":\"hash_password\",\"module\":\"utils\",",
  "\"full_path\":\"utils.hash_password\",\"signature\":\"(password: str, salt: str=None) -> str\",",
  "\"docstring\":\x7b\"summary\":\"Hash a password using bcrypt.\",\"description\":\"\",",
  "\"doc_type\":\"function\",\"args\":[\x7b\"name\":\"password\",\"type\":\"str\",",
  "\"description\":\"The plaintext password.\",\"default\":null,\"required\":null\x7d,",
  "\x7b\"name\":\"salt\",\"type\":\"str\",\"description\":\"Optional salt. Generated if not ",
  "provided.\",\"default\":null,\"required\":null\x7d],\"returns\":\x7b\"type\":\"str\",",
  "\"description\":\"The hashed password string.\"\x7d,\"raises\":[\x7b\"type\":\"ValueError\",",
  "\"description\":\"If password is empty or too short.\"\x7d],\"examples\":[\"    >>> ",
  "hash_password(\\\"mysecretpass\\\")\\n    '$2b$12$...'\"],\"attributes\":[],\"notes\":[]\x7d,",
  "\"is_async\":false,\"source\":\"def hash_password(password: str, salt: str = None) -> str:\\n  ",
  "  \\\"\\\"\\\"Hash a password using bcrypt.\\n\\n    Args:\\n        password (str): The ",
  "plaintext password.\\n        salt (str): Optional salt. Generated if not provided.\\n\\n    ",
  "Returns:\\n        str: The hashed password string.\\n\\n    Raises:\\n        ValueError: If ",
  "password is empty or too short.\\n\\n    Examples:\\n        >>> ",
  "hash_password(\\\"mysecretpass\\\")\\n        '$2b$12$...'\\n    \\\"\\\"\\\"\\n    if not ",
  "password or len(password) < 8:\\n        raise ValueError(\\\"Password must be at least 8 ",
  "characters\\\")\\n    return f\\\"hashed_\x7bpassword\x7d\\\"\",\"line_number\":4,",
  "\"decorators\":[],\"calls\":[\"ValueError\",\"len\"],\"doc_type\":\"function\"\x7d,",
  "\x7b\"name\":\"format_currency\",\"module\":\"utils\",\"full_path\":\"utils.format_currency\",",
  "\"signature\":\"(amount: int, currency: str='USD') -> str\",",
  "\"docstring\":\x7b\"summary\":\"Format an amount in cents to a human-readable currency ",
  "string.\",\"description\":\"\",\"doc_type\":\"function\",\"args\":[\x7b\"name\":\"amount\",",
  "\"type\":\"int\",\"description\":\"Amount in cents.\",\"default\":null,\"required\":null\x7d,",
  "\x7b\"name\":\"currency\",\"type\":\"str\",\"description\":\"Three-letter currency code.\",",
  "\"default\":null,\"required\":null\x7d],\"returns\":\x7b\"type\":\"str\",",
  "\"description\":\"Formatted string like \\\"$12.50\\\".\"\x7d,\"raises\":[],\"examples\":[\"   ",
  " >>> format_currency(1250)\\n    '$12.50'\\n    >>> format_currency(1000, \\\"EUR\\\")\\n    ",
  "'10.00 EUR'\"],\"attributes\":[],\"notes\":[]\x7d,\"is_async\":false,\"source\":\"def ",
  "format_currency(amount: int, currency: str = \\\"USD\\\") -> str:\\n    \\\"\\\"\\\"Format an ",
  "amount in cents to a human-readable currency string.\\n\\n    Args:\\n        amount (int): ",
  "Amount in cents.\\n        currency (str): Three-letter currency code.\\n\\n    Returns:\\n    ",
  "    str: Formatted string like \\\"$12.50\\\".\\n\\n    Examples:\\n        >>> ",
  "format_currency(1250)\\n        '$12.50'\\n        >>> format_currency(1000, \\\"EUR\\\")\\n   ",
  "     '10.00 EUR'\\n    \\\"\\\"\\\"\\n    return f\\\"$\x7bamount / 100:.2f\x7d\\\"\",",
  "\"line_number\":26,\"decorators\":[],\"calls\":[],\"doc_type\":\"function\"\x7d]\x7d],",
  "\"pages\":[\x7b\"title\":\"Test Project\",\"slug\":\"readme\",\"content\":\"<h1 ",
  "id=\\\"test-project\\\">Test Project</h1>\\n<p>This is a sample project demonstrating all ",
  "CacaoDocs doc types.</p>\\n<h2 id=\\\"doc-types\\\">Doc ",
  "Types</h2>\\n<ul>\\n<li><strong>function</strong> - Regular Python ",
  "functions</li>\\n<li><strong>api</strong> - REST API endpoints (auto-detected from ",
  "FastAPI/Flask decorators)</li>\\n<li><strong>class</strong> - Python classes with ",
  "methods</li>\\n<li><strong>config</strong> - Configuration and environment ",
  "variables</li>\\n<li><strong>event</strong> - Webhooks and event handlers</li>\\n</ul>\\n<h2 ",
  "id=\\\"getting-started\\\">Getting Started</h2>\\n<p>Install dependencies and run the ",
  "server:</p>\\n<div class=\\\"codehilite\\\"><pre><span></span><code>pip<span class=\\\"w\\\"> ",
  "</span>install<span class=\\\"w\\\"> </span>fastapi<span class=\\\"w\\\"> ",
  "</span>uvicorn\\nuvicorn<span class=\\\"w\\\"> </span>app:app<span class=\\\"w\\\"> ",
  "</span>--reload\\n</code></pre></div>\",",
  "\"file_path\":\"C:\\\\Users\\\\Juan\\\\Documents\\\\GitHub\\\\CacaoDocs\\\\docs\\\\README.md\",",
  "\"order\":0\x7d],\"config\":\x7b\"title\":\"CacaoDocs\",\"description\":\"Generate beautiful ",
  "documentation from Python docstrings\",\"version\":\"2.0.0\",",
  "\"theme\":\x7b\"primary_color\":\"#8B4513\",\"secondary_color\":\"#D2691E\",",
  "\"bg_color\":\"#faf8f5\",\"text_color\":\"#1a202c\",\"highlight_code_bg_color\":\"#fff8f0\",",
  "\"highlight_code_border_color\":\"#8B4513\",\"sidebar_bg_color\":\"#ffffff\",",
  "\"sidebar_text_color\":\"#1a202c\",\"sidebar_highlight_bg_color\":\"#8B4513\",",
  "\"sidebar_highlight_text_color\":\"#ffffff\",\"secondary_sidebar_bg_color\":\"#f5f0eb\",",
  "\"secondary_sidebar_text_color\":\"#1a202c\",",
  "\"secondary_sidebar_highlight_bg_color\":\"#8B4513\",",
  "\"secondary_sidebar_highlight_text_color\":\"#ffffff\",\"home_page_welcome_bg_1\":\"#8B4513\",",
  "\"home_page_welcome_bg_2\":\"#D2691E\",\"home_page_welcome_text_color\":\"#ffffff\",",
  "\"home_page_card_bg_color\":\"#ffffff\",\"home_page_card_text_color\":\"#1a202c\",",
  "\"code_bg_color\":\"#f5f0eb\"\x7d,\"logo_url\":\"\",",
  "\"github_url\":\"https://github.com/jhd3197/CacaoDocs\",\"footer_text\":\"Built with ",
  "CacaoDocs\",\"exclude_patterns\":[\".venv\",\".tox\",\"node_modules\",\".git\",",
  "\".pytest_cache\",\"venv\",\"*.egg-info\",\"dist\",\"__pypackages__\",\"__pycache__\",",
  "\"build\"],\"verbose\":true\x7d\x7d"]

/-- The sample. -/
def sampleData : Answer Value := do
  let some parts := Json.parse? sampleText | .error .notJson
  let modules ← parts.itemsOf "modules"
  let classes ← modules.mapM (·.itemsOf "classes")
  let functions ← modules.mapM (·.itemsOf "functions")
  let (endpoints, others) := functions.flatten.partition fun f =>
    match f.find "doc_type" with
    | .ok (some (.str kind)) => kind == "api"
    | _ => false
  return .object [
    ("modules", .list modules), ("classes", .list classes.flatten), ("functions", .list others),
    ("api_endpoints", .list endpoints), ("pages", ← parts.field "pages"),
    ("config", ← parts.field "config")]

end Docsmith.Site
